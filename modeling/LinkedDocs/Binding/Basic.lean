import LinkedDocs.Run
import LinkedDocs.Value.Basic

/-! Bindings: what the placeholders and expressions of a template refer to.

    A binding couples the positional values of a reference with the scope of its expressions. The
    scope is built when an expression first needs it, and then kept. -/

namespace LinkedDocs

/-- The root object and the values bound to the variables of an expression. -/
structure Scope where
  root : Value
  bound : List (String × Value)

structure Binding where
  /-- The reference value, which the positional parameters come from. -/
  source : Value
  /-- What building the scope gives. -/
  scope : Scope

namespace Binding

/-- The scope, once it is built, and how often it was built. -/
structure Memory where
  scope : Option Scope
  built : Nat

def Memory.fresh : Memory := ⟨none, 0⟩

/-- The scope of a binding; built now unless it was built before. -/
def useScope (b : Binding) : Run Memory Scope := Run.of fun m =>
  match m.scope with
  | some s => (.ok s, m)
  | none => (.ok b.scope, ⟨some b.scope, m.built + 1⟩)

/-- A positional parameter. A mapping's values are the parameters of a reference that is one, and a
    negative index counts from their end; any other reference is its own only parameter. -/
def parameter (b : Binding) (index : Int) : Except Failure Value :=
  match b.source.entries? with
  | none => .ok b.source
  | some es =>
    if index ≥ es.length then .error (.expression (.noParameter index es.length))
    else
      let j := if index < 0 then index + es.length else index
      match if j < 0 then none else es[j.toNat]? with
      | some e => .ok e.2
      | none => .error (.misuse .index)

/-- Names of the root object that need no declaration. -/
def rootNames : List String := ["this", "root"]

end Binding

/-- A variable of the scope. A declared one hides the names of the root object. -/
def Scope.lookup (s : Scope) (name : String) : Except Failure Value :=
  match s.bound.lookup name with
  | some v => .ok v
  | none =>
    if name ∈ Binding.rootNames then .ok s.root else .error (.expression (.unknownVariable name))

end LinkedDocs
