import LinkedDocs.Value.Basic

/-! Lookup templates.

    A template is relaxed JSON in which values and keys may be placeholders for positional
    parameters or expression blocks, and strings may contain both. -/

namespace LinkedDocs

/-- The key of a member. -/
inductive Template.Key where
  /-- A bare word or number, taken as it is. -/
  | name (s : String)
  /-- A quoted string, which may contain placeholders. -/
  | string (s : String)
  | placeholder (index : Nat)
  | expression (source : String)
  deriving DecidableEq, Repr

inductive Template where
  /-- A literal that needs no binding. -/
  | value (v : Value)
  /-- A quoted string, which may contain placeholders. -/
  | string (s : String)
  | placeholder (index : Nat)
  | expression (source : String)
  /-- An object identifier, given as a quoted string. -/
  | objectId (s : String)
  | array (items : List Template)
  | document (members : List (Template.Key × Template))

instance : Inhabited Template := ⟨.value .null⟩

end LinkedDocs
