import LinkedDocs.Failure
import LinkedDocs.Pattern.Reading
import LinkedDocs.Value.Basic

/-! Patterns as values and as parts of filters. -/

namespace LinkedDocs

/-- The failure that a faulty pattern leads to. -/
def Pattern.Fault.failure : Pattern.Fault → Failure
  | .malformed => .invalidPattern
  | .tooManyTimes => .misuse .overflow
  | .unreadable | .flags => .misuse .content

/-- The pattern that a text spells. -/
def Pattern.compile (source : String) (flags : Nat) : Except Failure Pattern :=
  (Pattern.read source flags).mapError (·.failure)

/-- A pattern ready for use; its flags are the ones in full. -/
def Value.ofPattern (p : Pattern) : Value := .regex true p.source p.flags

/-- The pattern of a value that is one ready for use. -/
def Value.pattern? : Value → Option Pattern
  | .regex true source flags => (Pattern.compile source flags).toOption
  | _ => none

end LinkedDocs
