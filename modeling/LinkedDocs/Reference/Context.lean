import LinkedDocs.Reference.Property
import LinkedDocs.Template.Decoding

/-! Where a reference is looked up.

    The context of a lookup names a database, a collection and a sort order. It comes from the
    settings of the property or from what the reference value itself says, and the first value of a
    list speaks for all of them. -/

namespace LinkedDocs

/-- Null stands for what is not said. -/
structure Context where
  database : Value
  collection : Value
  sort : Value

namespace Context

/-- The context as messages show it. -/
def shown (c : Context) : String :=
  let database := if c.database.isNull then [] else ["database=" ++ c.database.shown]
  let sort := if c.sort.truthy then ["sort=" ++ c.sort.shown] else []
  "ReferenceContext(" ++
    ", ".intercalate (database ++ ["collection=" ++ c.collection.shown] ++ sort) ++ ")"

def ofDbRef (collection : String) (database : Option String) : Context :=
  ⟨match database with | some d => .text d | none => .null, .text collection, .null⟩

/-- The context an embedded reference carries in its own keys. -/
def ofHints (hints : Value.Entries) (defaultCollection : Value) : Context :=
  let get (k : String) : Option Value := Value.Entries.get? hints (.text k)
  let collection := (get "collection").getD .null
  { database := (get "db").getD ((get "database").getD .null)
    collection := if collection.truthy then collection else defaultCollection
    sort := .null }

/-- The context that a stored reference carries itself: a pointer or a mapping of hints. -/
def ofReference (value defaultCollection : Value) : Except Failure Context :=
  match value with
  | .dbRef collection _ database _ => .ok (ofDbRef collection database)
  | value =>
    match value.entries? with
    | some es => .ok (ofHints es defaultCollection)
    | none => .error (.misuse .attribute)

end Context

/-- Whether a text looks like a document. -/
def isDocumentText (s : String) : Bool :=
  let t := Text.trim s.toList
  t.head? == some '{' && t.getLast? == some '}'

namespace Property

/-- The binding of a lookup to one reference value: variables are the value under the common name
    and under the property's own. -/
def binding (p : Property) (value : Value) : Binding where
  source := value
  scope := { root := value, bound := [(p.name, value), ("target", value)] }

/-- A setting that is a template of values: a document, or one placeholder or marked block. -/
def isValueTemplate (template : String) : Bool :=
  isDocumentText template ||
    (let t := Text.trimLeft template.toList
     ['?'].isPrefixOf t || [':', '#', '{'].isPrefixOf t)

/-- The value of a setting; the default if it is not configured or gives nothing. -/
def setting (b : Binding) (template : String) (default : Value) : Run Binding.Memory Value :=
  if (Text.trim template.toList).isEmpty then pure default
  else do
    let v ← if isValueTemplate template then b.decodeValue template else b.evaluatePlain template
    match v with
    | .null | .text "" => pure default
    | v => pure v

/-- The collection of a reference that names one itself, else the property's. -/
def defaultCollection (p : Property) (value : Value) : Value :=
  let own := (value.entries?.bind (Value.Entries.get? · (.text "collection"))).getD .null
  if own.truthy then own else .text p.collection

def wrongSetting {α : Type} (s : Setting) (template : String) (v : Value) : Except Failure α :=
  .error (.expression (.wrongSettingType s template v.typeName))

/-- A context from the values of its settings, if they have the right types. -/
def checkedContext (l : Lookup) (database collection sort : Value) : Except Failure Context :=
  if !database.isNull && database.text?.isNone then wrongSetting .database l.database database
  else if collection.text?.isNone then wrongSetting .collection l.collection collection
  else if !sort.isNull && !sort.isMapping then wrongSetting .sort l.sort sort
  else
    let sort := match sort.entries? with
      | some (e :: es) => .map (e :: es)
      | _ => .null
    .ok ⟨database, collection, sort⟩

/-- The context of a lookup; all three settings are evaluated before any is checked. -/
def lookupContext (p : Property) (l : Lookup) (value : Value) : Run Binding.Memory Context := do
  let b := p.binding value
  let database ← setting b l.database .null
  let collection ← setting b l.collection (p.defaultCollection value)
  let sort ← setting b l.sort .null
  Run.lift (checkedContext l database collection sort)

/-- The context of a reference by identifier. -/
def pointerContext (p : Property) (options : Option PointerOptions) (value : Value) : Context :=
  match value with
  | .dbRef collection _ database _ => Context.ofDbRef collection database
  | value =>
    match value.entries? with
    | some es => Context.ofHints es (.text p.collection)
    | none =>
      let database := match options with
        | some o => if o.database.isEmpty then .null else .text o.database
        | none => .null
      ⟨database, .text p.collection, .null⟩

/-- The context of one reference value. -/
def singleContext (p : Property) (value : Value) : Except Failure Context :=
  match p.link with
  | .lookup l => (p.lookupContext l value).outcome .fresh
  | .pointer o => .ok (p.pointerContext o value)

/-- The context of a reference value or of a list of them. -/
def context (p : Property) (value : Value) : Except Failure Context :=
  match value.sequence? with
  | none => p.singleContext value
  | some [] => .ok ⟨.null, .text p.collection, .null⟩
  | some (v :: _) => p.singleContext v

end Property

end LinkedDocs
