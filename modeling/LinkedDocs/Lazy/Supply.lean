import LinkedDocs.Lazy.Proxy

/-! Suppliers of targets that fail a few times before they deliver. -/

namespace LinkedDocs

/-- A supplier of one target, the failures it still has to come, and how often it was called. -/
structure Supply where
  target : Value
  failures : Nat
  calls : Nat

/-- Calls the supplier of the given number. -/
def Supply.attempt (id : Nat) : Run (List Supply) Value := Run.of fun supplies =>
  match supplies[id]? with
  | none => (.error .interrupted, supplies)
  | some s =>
    let after := supplies.set id { s with failures := s.failures - 1, calls := s.calls + 1 }
    if s.failures = 0 then (.ok s.target, after) else (.error .interrupted, after)

end LinkedDocs
