import LinkedDocs.Entity.Type

/-! The entity types of a library of books.

    They cover the ways a class can declare its fields: checked and aliased models, plain records,
    classes with required arguments, with none at all, and with a constructor of their own. -/

namespace LinkedDocs.EntityType.Catalog

def publisher : EntityType := model "Publisher"
  [⟨"id", none, .anything, .null⟩, ⟨"acronym", none, .optionalText, .null⟩,
   ⟨"name", none, .text, .text ""⟩, ⟨"tags", none, .texts, .list []⟩]

def book : EntityType := model "Book"
  [⟨"id", none, .anything, .null⟩, ⟨"isbn", none, .optionalText, .null⟩,
   ⟨"title", none, .text, .text ""⟩]

def aliased : EntityType := model "Aliased"
  [⟨"key", some "_key", .anything, .null⟩, ⟨"sub", none, .anything, .null⟩]

def author : EntityType := ofParameters "Author" .structural
  [("id", some .null), ("name", some (.text "")), ("born", some .null)]

def plain : EntityType := ofParameters "Plain" .plain
  [("_id", some .null), ("label", some (.text ""))]

def strict : EntityType := ofParameters "Strict" .plain [("label", none)]

def bare : EntityType := ofParameters "Opaque" .plain []

/-- Its constructor keeps two of its arguments together in one attribute. -/
def forward : EntityType where
  shape := { name := "Forward", form := .slotted, fields := ["extra", "id"], aliases := [] }
  declared := ["name", "extra", "id"]
  build args :=
    (assign [("name", some .null), ("extra", some .null), ("id", some .null)] args).map fun fs =>
      let get (n : String) : Value := (fs.lookup n).getD .null
      [("extra", .tuple [get "name", get "extra"]), ("id", get "id")]

def all : List EntityType :=
  [publisher, book, aliased, author, plain, strict, bare, forward]

/-- The class of mappings that has a name of its own. -/
def collected : String := "Collected"

/-- The target type of the given name; a name of nothing known is no class. -/
def target (name : String) : TargetType :=
  if name = "dict" then .mapping none
  else if name = collected then .mapping (some collected)
  else match all.find? fun e => e.shape.name = name with
    | some e => .entity e
    | none => .unknown name

/-- An instance of the named type with the given fields. -/
def instantiate? (name : String) (fields : Arguments) : Option Value :=
  match target name with
  | .mapping none => some (.map (fields.map fun f => (.text f.1, f.2)))
  | .mapping (some t) => some (.mapping t (fields.map fun f => (.text f.1, f.2)))
  | .entity e => e.instantiate fields
  | .unknown _ => none

end LinkedDocs.EntityType.Catalog
