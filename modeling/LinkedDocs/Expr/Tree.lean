import LinkedDocs.Value.Basic

/-! Expressions that navigate a reference value.

    A variable, a bare name of the root object or a positional parameter is followed by properties
    and indexes, and the results may be added up. -/

namespace LinkedDocs

/-- What an index selects by. -/
inductive Expr.Key where
  | integer (n : Int)
  | text (s : String)
  deriving DecidableEq, Repr

inductive Expr where
  /-- A number, text, truth value or null. -/
  | literal (v : Value)
  /-- A named variable, or the root object under a reserved name. -/
  | variable (name : String)
  /-- A property of the root object. -/
  | root (name : String)
  /-- A positional parameter of the reference. -/
  | parameter (index : Int)
  | property (target : Expr) (name : String)
  | index (target : Expr) (key : Expr.Key)
  | add (left right : Expr)

namespace Expr

instance : Inhabited Expr := ⟨.literal .null⟩

def Key.value : Key → Value
  | .integer n => .int n
  | .text s => .text s

end Expr

end LinkedDocs
