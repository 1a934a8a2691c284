import LinkedDocs.Sorting
import LinkedDocs.Value.Container

/-! Restoring the order of references.

    A store returns the documents of several references in an order of its own. They are put back by
    the branches of the filter: the first branch that contains exactly one of two documents decides
    which of them goes first. -/

namespace LinkedDocs.BranchOrder

/-- Whether a document has an entry. -/
def hasEntry (doc : Value) (e : Value × Value) : Except Misuse Bool := do
  if ← doc.contains e.1 then
    let v ← doc.getItem e.1
    pure (v.equal e.2)
  else pure false

/-- Whether a document has all of the given entries. -/
def hasEntries (doc : Value) : Value.Entries → Except Misuse Bool
  | [] => .ok true
  | e :: es => do
    if ← hasEntry doc e then hasEntries doc es else pure false

/-- Whether a document contains all entries of a branch. -/
def matchesBranch (doc branch : Value) : Except Misuse Bool :=
  match branch.entries? with
  | some es => hasEntries doc es
  | none => .error .attribute

/-- Negative if the first document goes first, positive if not; if no branch tells two documents
    apart, the number of branches. -/
def compareFrom (ties : Int) (d₁ d₂ : Value) : List Value → Except Misuse Int
  | [] => .ok ties
  | b :: bs => do
    let first ← matchesBranch d₁ b
    let second ← matchesBranch d₂ b
    if first && !second then pure (-1)
    else if second && !first then pure 1
    else compareFrom ties d₁ d₂ bs

def compare (branches : List Value) (d₁ d₂ : Value) : Except Misuse Int :=
  compareFrom branches.length d₁ d₂ branches

/-- Whether the first document goes first. -/
def before (branches : List Value) (d₁ d₂ : Value) : Except Misuse Bool :=
  (compare branches d₁ d₂).map (· < 0)

/-- The documents in the order of the branches; undecided ones keep their order. -/
def restore (branches docs : List Value) : Except Misuse (List Value) :=
  Sorting.sort (before branches) docs

end LinkedDocs.BranchOrder
