import LinkedDocs.Entity.Type
import LinkedDocs.Text.Blank

/-! Reference properties.

    A property of a domain object refers to documents in one of two ways: through a lookup, whose
    template describes a filter, or through stored identifiers. The declaration is checked when it
    is made. -/

namespace LinkedDocs

/-- How the documents are looked up. The settings are templates; a blank one is not configured. -/
structure Lookup where
  template : String
  database : String
  collection : String
  sort : String
  isLazy : Bool
  deriving DecidableEq, Repr

/-- The options of a reference by identifier. -/
structure PointerOptions where
  database : String
  isLazy : Bool
  deriving DecidableEq, Repr

inductive Link where
  | lookup (l : Lookup)
  | pointer (options : Option PointerOptions)
  deriving DecidableEq, Repr

structure Property where
  name : String
  /-- The key that the reference value is stored under. -/
  field : String
  target : TargetType
  collection : String
  /-- Whether the property holds several references. -/
  isMulti : Bool
  /-- Whether the property is a mapping of references. -/
  isMap : Bool
  link : Link

namespace Lookup

def defaultTemplate : String := "\x7b '_id' : ?#\x7b#target\x7d \x7d"

end Lookup

/-! ### Declarations -/

/-- The fields of a declaration, by name. Unknown ones are ignored. -/
abbrev Declaration := List (String × Value)

namespace Declaration

/-- A field that holds text. -/
def text (d : Declaration) (field default : String) : Except Failure String :=
  match d.lookup field with
  | none => .ok default
  | some v => match v.text? with
    | some s => .ok s
    | none => .error .invalidDeclaration

def trueWords : List String := ["1", "on", "t", "true", "y", "yes"]
def falseWords : List String := ["0", "off", "f", "false", "n", "no"]

/-- The truth value that a flag is written as. -/
def flag? (v : Value) : Option Bool :=
  match v with
  | .text s =>
    let w := String.ofList (s.toList.map Char.toLower)
    if w ∈ trueWords then some true else if w ∈ falseWords then some false else none
  | .float x => if x == 1.0 then some true else if x == 0.0 then some false else none
  | v => match v.int? with
    | some 1 => some true
    | some 0 => some false
    | _ => none

/-- A field that holds a truth value. -/
def flag (d : Declaration) (field : String) : Except Failure Bool :=
  match d.lookup field with
  | none => .ok false
  | some v => match flag? v with
    | some b => .ok b
    | none => .error .invalidDeclaration

end Declaration

/-- The lookup of a declaration. Its template must not be blank. -/
def Lookup.declare (d : Declaration) : Except Failure Lookup := do
  let template ← d.text "lookup" defaultTemplate
  let database ← d.text "db" ""
  let collection ← d.text "collection" ""
  let sort ← d.text "sort" ""
  let isLazy ← d.flag "lazy"
  if (Text.trim template.toList).isEmpty then .error .invalidDeclaration
  else .ok { template, database, collection, sort, isLazy }

def PointerOptions.declare (d : Declaration) : Except Failure PointerOptions := do
  let database ← d.text "db" ""
  let isLazy ← d.flag "lazy"
  pure { database, isLazy }

/-- The link of a property; it cannot be of both kinds. -/
def Link.declare (property : String) (lookup : Option Lookup) (pointer : Option PointerOptions) :
    Except Failure Link :=
  match lookup, pointer with
  | some _, some _ => .error (.configuration (.bothKinds property))
  | some l, none => .ok (.lookup l)
  | none, p => .ok (.pointer p)

namespace Property

/-- The lookup that the property has to have. -/
def requiredLookup (p : Property) : Except Failure Lookup :=
  match p.link with
  | .lookup l => .ok l
  | .pointer _ => .error (.configuration (.noTemplate p.name))

def isTemplated (p : Property) : Bool :=
  match p.link with
  | .lookup _ => true
  | .pointer _ => false

/-- Whether the reference is resolved on first use. -/
def isLazy (p : Property) : Bool :=
  match p.link with
  | .lookup l => l.isLazy
  | .pointer (some o) => o.isLazy
  | .pointer none => false

/-- The name of the reference's kind. -/
def kindName (p : Property) : String :=
  match p.isTemplated, p.isMulti with
  | true, true => "templated_multi"
  | true, false => "templated_single"
  | false, true => "legacy_multi"
  | false, false => "legacy_single"

/-- The same property with the laziness of its link replaced. -/
def withLazy (p : Property) (isLazy : Bool) : Property :=
  { p with link := match p.link with
    | .lookup l => .lookup { l with isLazy }
    | .pointer (some o) => .pointer (some { o with isLazy })
    | .pointer none => .pointer (some { database := "", isLazy }) }

end Property

end LinkedDocs
