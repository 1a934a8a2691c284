import LinkedDocs.Binding.Basic
import LinkedDocs.Expr.Reading
import LinkedDocs.Value.Attribute
import LinkedDocs.Value.Container
import LinkedDocs.Value.Operator

/-! Evaluating expressions.

    Properties read mappings by key and everything else by attribute; indexes read mappings by key
    and lists by position. Adding a text to anything joins the two texts. Only variables and bare
    names need the scope, so it is built only when one of these is reached. -/

namespace LinkedDocs.Expr

/-- A property of a value. A mapping has every property, a missing one is null. -/
def readProperty (source : String) (target : Value) (name : String) : Except Failure Value :=
  match target with
  | .null => .error (.expression (.propertyOfNull name source))
  | target =>
    match target.entries? with
    | some es => .ok ((Value.Entries.get? es (.text name)).getD .null)
    | none =>
      match target.attribute? name with
      | some v => .ok v
      | none => .error (.expression (.propertyNotFound name target.typeName source))

/-- The items of a value that is indexed by position. -/
def indexed? : Value → Option (List Value)
  | .list xs | .tuple xs => some xs
  | .bytes _ bs => some (bs.map fun b => .int b.toNat)
  | _ => none

/-- The item of a value under an index. -/
def readItem (source : String) (target : Value) (key : Key) : Except Failure Value :=
  match target.entries? with
  | some es => .ok ((Value.Entries.get? es key.value).getD .null)
  | none =>
    match indexed? target, key with
    | some xs, .integer i =>
      match (Value.place? xs.length i).bind (xs[·]?) with
      | some v => .ok v
      | none => .error (.expression (.indexOutOfRange i source))
    | _, _ => .error (.expression (.notIndexable target.typeName key.value.shown source))

/-- The text of an operand of a text addition, if it can be written. -/
def operandText (v : Value) : Except Misuse String := if v.isNull then .ok "null" else v.written

/-- The texts of two operands in a row. -/
def joinTexts (left right : Value) : Except Misuse Value := do
  let l ← operandText left
  let r ← operandText right
  pure (.text (l ++ r))

/-- The sum of two values. -/
def addValues (source : String) (left right : Value) : Except Failure Value :=
  if left.text?.isSome || right.text?.isSome then (joinTexts left right).mapError .misuse
  else
    match Value.apply .add left right with
    | .ok v => .ok v
    | .error .type => .error (.expression (.notAddable left.typeName right.typeName source))
    | .error m => .error (.misuse m)

/-- The value of an expression read from `source`. -/
def eval (b : Binding) (source : String) : Expr → Run Binding.Memory Value
  | .literal v => pure v
  | .variable name => do
    let s ← b.useScope
    Run.lift (s.lookup name)
  | .root name => do
    let s ← b.useScope
    Run.lift (readProperty source s.root name)
  | .parameter i => Run.lift (b.parameter i)
  | .property target name => do
    let v ← eval b source target
    Run.lift (readProperty source v name)
  | .index target key => do
    let v ← eval b source target
    Run.lift (readItem source v key)
  | .add left right => do
    let l ← eval b source left
    let r ← eval b source right
    Run.lift (addValues source l r)

end LinkedDocs.Expr

namespace LinkedDocs.Binding

/-- The value of the expression that a text spells. -/
def evaluate (b : Binding) (source : String) : Run Memory Value := do
  let e ← Run.lift (Expr.parse source)
  e.eval b source

end LinkedDocs.Binding
