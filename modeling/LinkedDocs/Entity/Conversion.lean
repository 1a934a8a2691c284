import LinkedDocs.Entity.Type

/-! From a referenced document to a domain object.

    The constructor of the target type gets the declared fields that the document has, and its
    identifier under the names of the two identifier fields. Moments without a distance from
    universal time count as universal. A mapping type takes the whole document. -/

namespace LinkedDocs.Conversion

/-- The names that the document's identifier goes by in a domain object. -/
structure IdFields where
  application : String
  database : String
  deriving DecidableEq, Repr

def IdFields.standard : IdFields := ⟨"id", "_id"⟩

/-- The key of the identifier in every document. -/
def idKey : Value := .text "_id"

/-- A naive moment read as universal time; any other value as it is. -/
def universal : Value → Value
  | .moment m => if m.offset.isNone then .moment m.atUniversal else .moment m
  | v => v

/-- The identifier arguments. -/
def idArguments (ids : IdFields) (declared : List String) (doc : Value.Entries) : Arguments :=
  match Value.Entries.get? doc idKey with
  | none | some .null => []
  | some id =>
    (if ids.database ∈ declared then [(ids.database, id)] else []) ++
    (if ids.application ≠ ids.database ∧ ids.application ∈ declared then
      [(ids.application, (Value.Entries.get? doc (.text ids.application)).getD id)] else [])

/-- The arguments for the declared fields that are not given yet. -/
def fieldArguments (given : Arguments) (declared : List String) (doc : Value.Entries) :
    Arguments :=
  declared.filterMap fun f =>
    if (given.lookup f).isSome then none
    else (Value.Entries.get? doc (.text f)).map fun v => (f, universal v)

/-- The constructor's arguments. -/
def arguments (ids : IdFields) (declared : List String) (doc : Value.Entries) : Arguments :=
  let given := idArguments ids declared doc
  given ++ fieldArguments given declared doc

/-- One entry of a mapping given as a list of pairs. -/
def pairOf (v : Value) : Except Misuse (Value × Value) := do
  match ← v.items with
  | [k, x] => if k.hashable then pure (k, x) else throw .type
  | _ => throw .content

/-- The entries a mapping type takes from a document. -/
def entriesOf (doc : Value) : Except Misuse Value.Entries :=
  match doc.entries? with
  | some es => .ok es
  | none => do
    let xs ← doc.items
    let es ← xs.mapM pairOf
    pure (Value.Entries.ofList es)

/-- The entries of a sequence before the first item that is none. -/
def leadingEntries (doc : Value) : Value.Entries :=
  match doc.items with
  | .ok xs => ((xs.map pairOf).takeWhile Except.isOk).filterMap Except.toOption
  | .error _ => []

/-- Converts the document for the named property. -/
def convert (ids : IdFields) (property : String) (target : TargetType) (doc : Value) :
    Except Failure Value :=
  if doc.isNull then .error .noDocument
  else
    match target with
    | .mapping type =>
      match entriesOf doc with
      | .error m => .error (.misuse m)
      | .ok es => .ok (match type with | none => .map es | some t => .mapping t es)
    | .unknown n => .error (.noFields (Text.quoted n) property)
    | .entity e =>
      if e.declared.isEmpty then .error (.noFields (Text.quoted e.shape.name) property)
      else
        match doc.entries? with
        | none => .error (.misuse .attribute)
        | some es =>
          match e.instantiate (arguments ids e.declared es) with
          | some v => .ok v
          | none => .error (.notConvertible e.shape.name)

end LinkedDocs.Conversion
