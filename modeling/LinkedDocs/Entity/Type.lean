import LinkedDocs.Value.Container

/-! Classes of domain objects.

    A referenced document becomes an instance of its property's target type. All that matters of a
    class is which fields it declares and what its constructor makes of given arguments. -/

namespace LinkedDocs

/-- Arguments for a constructor, by name. -/
abbrev Arguments := List (String × Value)

structure EntityType where
  shape : Shape
  /-- The fields a document may fill. -/
  declared : List String
  /-- The fields of the new instance, unless the constructor refuses its arguments. -/
  build : Arguments → Option (List (String × Value))

/-- What referenced documents are converted into. -/
inductive TargetType where
  /-- A mapping, of the plain class or one of its own. -/
  | mapping (type : Option String)
  | entity (e : EntityType)
  /-- Something that is no class. -/
  | unknown (name : String)

namespace EntityType

/-- The values a checked field takes. -/
inductive Check where
  | anything
  | text
  | optionalText
  | texts
  deriving DecidableEq, Repr

/-- A text, or bytes that encode one. -/
def acceptText (v : Value) : Option Value :=
  match v with
  | .bytes _ bs => (Value.utf8Text? bs).map .text
  | v => v.text?.map .text

/-- The value a checked field takes for a given one. -/
def Check.accept : Check → Value → Option Value
  | .anything, v => some v
  | .text, v => acceptText v
  | .optionalText, v => if v.isNull then some .null else acceptText v
  | .texts, v =>
    match v with
    | .list xs | .tuple xs | .set _ xs => (xs.mapM acceptText).map .list
    | _ => none

/-- A field of a checked class. -/
structure Field where
  name : String
  storedName : Option String
  check : Check
  default : Value

/-- The value of a field: the argument under its stored name, else under its own, else the
    default. -/
def Field.value (f : Field) (args : Arguments) : Option Value :=
  match (f.storedName.bind fun a => args.lookup a) <|> args.lookup f.name with
  | some v => f.check.accept v
  | none => some f.default

/-- A class that checks its fields and ignores other arguments. -/
def model (name : String) (fields : List Field) : EntityType where
  shape :=
    { name, form := .model, fields := fields.map Field.name
      aliases := fields.filterMap fun f => f.storedName.map fun a => (f.name, a) }
  declared := fields.map Field.name
  build args := fields.mapM fun f => (f.value args).map fun v => (f.name, v)

/-- A constructor with one parameter for each field; a parameter without a default has to be
    given, and other arguments are refused. -/
def assign (params : List (String × Option Value)) (args : Arguments) :
    Option (List (String × Value)) :=
  if args.all fun a => (params.lookup a.1).isSome then
    params.mapM fun p => ((args.lookup p.1) <|> p.2).map fun v => (p.1, v)
  else none

/-- A class with a parameter for each field. -/
def ofParameters (name : String) (form : ObjectForm) (params : List (String × Option Value)) :
    EntityType where
  shape := { name, form, fields := params.map (·.1), aliases := [] }
  declared := params.map (·.1)
  build := assign params

/-- A new instance. -/
def instantiate (e : EntityType) (args : Arguments) : Option Value :=
  (e.build args).map (.entity e.shape)

end EntityType

end LinkedDocs
