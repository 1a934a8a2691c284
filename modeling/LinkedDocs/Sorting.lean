/-! Stable sorting by an order that may fail.

    A list often starts with items that are in order already, or exactly the other way round. This
    first run is kept, turned round if need be, and each item after it is put in by halving the
    items before it. So items that are not less than each other keep their order, and only the order
    itself is asked. Which comparisons are made is fixed, because an order that leaves some items
    undecided, as that of doubles does, shows them in the result. -/

namespace LinkedDocs.Sorting

variable {m : Type → Type} [Monad m] {α : Type}

/-- The items that go on with a run whose last item is `last`, and those after it. In a falling run
    each item is less than the one before it, in a rising one it is not. -/
def extendRun (less : α → α → m Bool) (falling : Bool) (last : α) :
    List α → m (List α × List α)
  | [] => pure ([], [])
  | x :: xs => do
    if (← less x last) == falling then
      let (run, rest) ← extendRun less falling x xs
      pure (x :: run, rest)
    else pure ([], x :: xs)

/-- The longest run that a list starts with, rising, and the items after it. -/
def firstRun (less : α → α → m Bool) : List α → m (List α × List α)
  | x :: y :: ys => do
    let falling ← less y x
    let (run, rest) ← extendRun less falling y ys
    let run := x :: y :: run
    pure (if falling then run.reverse else run, rest)
  | xs => pure (xs, [])

/-- Puts an item before the first one it is less than, halving the items at most `fuel` times. -/
def insertWithin (less : α → α → m Bool) (x : α) : (fuel : Nat) → List α → m (List α)
  | 0, ys => pure (x :: ys)
  | fuel + 1, ys =>
    let before := ys.take (ys.length / 2)
    match ys.drop (ys.length / 2) with
    | [] => pure [x]
    | y :: after => do
      if ← less x y then
        let zs ← insertWithin less x fuel before
        pure (zs ++ y :: after)
      else
        let zs ← insertWithin less x fuel after
        pure (before ++ y :: zs)

/-- Puts an item before the first one it is less than. Every step leaves fewer items, so their
    number is enough steps. -/
def insert (less : α → α → m Bool) (x : α) (ys : List α) : m (List α) :=
  insertWithin less x ys.length ys

/-- Inserts the items of a list, front to back, into one that is sorted. -/
def insertAll (less : α → α → m Bool) (sorted : List α) : List α → m (List α)
  | [] => pure sorted
  | x :: xs => do
    let sorted ← insert less x sorted
    insertAll less sorted xs

/-- The list, sorted; equal items keep their order. -/
def sort (less : α → α → m Bool) (xs : List α) : m (List α) := do
  let (run, rest) ← firstRun less xs
  insertAll less run rest

/-- The list, sorted from the greatest item down; equal items keep their order. -/
def sortDown (less : α → α → m Bool) (xs : List α) : m (List α) := do
  let ys ← sort less xs.reverse
  pure ys.reverse

end LinkedDocs.Sorting
