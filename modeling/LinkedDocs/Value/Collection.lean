import LinkedDocs.Value.Equality

/-! Sets of values.

    A set is a list in which no two items are equal, in the order in which the items are met.
    Numbers are met in the order of a hash table: each has a place by its residue modulo a power of
    two, and takes a later one if that is occupied. Items of other types have no such order and are
    met as they were put in. -/

namespace LinkedDocs.Value

/-- The items without those that equal an earlier one. -/
def distinct (xs : List Value) : List Value :=
  xs.foldl (fun seen x => if x.occursIn seen then seen else seen ++ [x]) []

/-- The items of `xs` that equal none of `ys`. -/
def without (xs ys : List Value) : List Value := xs.filter fun x => !x.occursIn ys

/-- The items that equal one of the other set. They are taken from the smaller set, from the second
    if both are of one size. -/
def common (xs ys : List Value) : List Value :=
  if xs.length < ys.length then xs.filter fun x => x.occursIn ys
  else ys.filter fun y => y.occursIn xs

/-! ### Hash tables -/

/-- The prime that numbers are reduced by, one less than a power of two. -/
def hashPrime : Nat := 0x1fffffffffffffff

/-- A residue with the sign of its number, as 64 bits; minus one is no hash. -/
def signedHash (negative : Bool) (residue : Nat) : Nat :=
  let word : Nat := 0x10000000000000000
  if !negative ∨ residue = 0 then residue
  else if residue = 1 then word - 2
  else word - residue

/-- The hash of a number, the same for equal numbers of any type. -/
def numberHash? (v : Value) : Option Nat :=
  match v.numeric? with
  | some (.whole n) => some (signedHash (n < 0) (n.natAbs % hashPrime))
  | some (.real x) => match Number.Binary64.ofFloat x with
    -- multiplying by two sixty-one times changes no residue
    | .finite negative m e =>
      some (signedHash negative (m * Nat.pow 2 (Int.emod e 61).toNat % hashPrime))
    | .infinite negative => some (signedHash negative 314159)
    | .undefined => none
  | none => none

/-- Items at their places, with their hashes. -/
abbrev Table := List (Option (Nat × Value))

/-- How many places after one are tried before the search goes on elsewhere. -/
def neighbours : Nat := 9

/-- The first place from `i` on that is free, of `count` places. -/
def freePlace? (table : Table) (i : Nat) : (count : Nat) → Option Nat
  | 0 => none
  | count + 1 =>
    match table[i]? with
    | some none => some i
    | _ => freePlace? table (i + 1) count

/-- The free place for a hash: at its residue or close behind it, else at places that take in more
    and more of its bits, `fuel` of them. -/
def placeFor (table : Table) : (fuel i rest : Nat) → Nat
  | 0, i, _ => i
  | fuel + 1, i, rest =>
    let count := if i + neighbours < table.length then neighbours + 1 else 1
    match freePlace? table i count with
    | some j => j
    | none =>
      let rest := rest / 32
      placeFor table fuel ((i * 5 + 1 + rest) % table.length) rest

def Table.insert (table : Table) (item : Nat × Value) : Table :=
  table.set (placeFor table (table.length + 64) (item.1 % table.length) item.1) (some item)

/-- The items of a table from the first place to the last. -/
def Table.entries (table : Table) : List (Nat × Value) := table.filterMap id

/-- The least power of two above `n`, at least `size`; `fuel` doublings. -/
def tableSize (n : Nat) : (fuel size : Nat) → Nat
  | 0, size => size
  | fuel + 1, size => if n < size then size else tableSize n fuel (2 * size)

/-- A table of at least eight places that holds more than `n`, filled in order. -/
def Table.build (n : Nat) (items : List (Nat × Value)) : Table :=
  items.foldl Table.insert (List.replicate (tableSize n 64 8) none)

/-- One more item; a table that is three fifths full is replaced by one four times its content. -/
def Table.add (table : Table) (item : Nat × Value) : Table :=
  let table := table.insert item
  let count := table.entries.length
  if count * 5 < (table.length - 1) * 3 then table else Table.build (4 * count) table.entries

/-- Distinct items in the order in which a set has them. -/
def inSetOrder (xs : List Value) : List Value :=
  match xs.mapM fun x => x.numberHash?.map fun h => (h, x) with
  | some items => (items.foldl Table.add (Table.build 0 [])).entries.map (·.2)
  | none => xs

/-- The set of the given items. -/
def setOf (frozen : Bool) (xs : List Value) : Value := .set frozen (inSetOrder (distinct xs))

end LinkedDocs.Value
