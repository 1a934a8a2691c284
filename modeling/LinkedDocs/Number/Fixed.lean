import LinkedDocs.Number.Shortest

/-! Doubles as decimals with a given number of digits.

    The exact value of the double is rounded once, to the last digit that is written, a tie to the
    even neighbour. With a fixed number of places the digits follow the point; in scientific form
    one digit precedes it; the general forms count all digits and take whichever of the two is the
    shorter. -/

namespace LinkedDocs.Number.Fixed

inductive Style where
  /-- So many digits after the point. -/
  | fixed
  /-- One digit before the point, so many after it, and a power of ten. -/
  | scientific
  /-- So many digits in all, without zeros at the end. -/
  | general
  /-- The same, but with a digit after the point. -/
  | decimal
  deriving DecidableEq, Repr

/-- `num / den` in units of `10 ^ -places`, rounded. -/
def units (num den : Nat) (places : Int) : Nat :=
  if places < 0 then Binary64.roundDiv num (den * Nat.pow 10 places.natAbs)
  else Binary64.roundDiv (num * Nat.pow 10 places.natAbs) den

/-- The first `count` digits of `num / den`, rounded, and the exponent of the first one. Rounding up
    to a power of ten moves the exponent. -/
def leading (num den count : Nat) : List Char × Int :=
  if num = 0 then (List.replicate count '0', 0)
  else
    let k := Shortest.exponentOf num den
    let ds := Nat.toDigits 10 (units num den (count - 1 - k))
    if ds.length > count then (ds.take count, k + 1) else (ds, k)

/-- A point and what follows it; the point goes with the digits unless it is to be kept. -/
def fraction (keepPoint : Bool) (ds : List Char) : List Char :=
  if ds.isEmpty && !keepPoint then [] else '.' :: ds

def withoutZeros (ds : List Char) : List Char := (ds.reverse.dropWhile (· = '0')).reverse

/-- With a fixed number of places. -/
def fixedText (places : Nat) (keepPoint : Bool) (num den : Nat) : List Char :=
  let ds := Shortest.pad (places + 1) (Nat.toDigits 10 (units num den places))
  let whole := ds.length - places
  ds.take whole ++ fraction keepPoint (ds.drop whole)

/-- Digits with the first one at `10 ^ k`, in scientific form. -/
def powerText (keepPoint : Bool) (ds : List Char) (k : Int) : List Char :=
  ds.take 1 ++ fraction keepPoint (ds.drop 1) ++
    'e' :: (if k < 0 then '-' else '+') :: Shortest.pad 2 (Nat.toDigits 10 k.natAbs)

/-- With so many digits in all; they are written positionally from a ten-thousandth up to a first
    digit below `10 ^ limit`. A digit after the point is added to a whole number if `decimal`. -/
def generalText (count : Nat) (decimal keepPoint : Bool) (num den : Nat) : List Char :=
  let (ds, k) := leading num den count
  let trimmed (ds : List Char) : List Char := if keepPoint then ds else withoutZeros ds
  let limit : Int := if decimal then count - 1 else count
  if k < -4 ∨ limit ≤ k then powerText keepPoint (ds.take 1 ++ trimmed (ds.drop 1)) k
  else if k < 0 then
    '0' :: fraction keepPoint (trimmed (List.replicate (k.natAbs - 1) '0' ++ ds))
  else
    let rest := trimmed (ds.drop (k.natAbs + 1))
    let rest := if decimal && rest.isEmpty then ['0'] else rest
    ds.take (k.natAbs + 1) ++ fraction keepPoint rest

/-- The text of `± num / den`, without the sign. -/
def unsignedText (style : Style) (precision : Nat) (keepPoint : Bool) (num den : Nat) :
    List Char :=
  match style with
  | .fixed => fixedText precision keepPoint num den
  | .scientific =>
    let (ds, k) := leading num den (precision + 1)
    powerText keepPoint ds k
  | .general => generalText (max precision 1) false keepPoint num den
  | .decimal => generalText (max precision 1) true keepPoint num den

/-- The text of a double. -/
def text (style : Style) (precision : Nat) (keepPoint : Bool) (x : Float) : List Char :=
  match Binary64.ofFloat x with
  | .undefined => ['n', 'a', 'n']
  | .infinite negative => if negative then ['-', 'i', 'n', 'f'] else ['i', 'n', 'f']
  | .finite negative m e =>
    let power := Nat.pow 2 e.natAbs
    let (num, den) : Nat × Nat := if e < 0 then (m, power) else (m * power, 1)
    let body := unsignedText style precision keepPoint num den
    if negative then '-' :: body else body

end LinkedDocs.Number.Fixed
