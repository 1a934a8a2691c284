import LinkedDocs.Number.Binary64

/-! The shortest decimal text of a double.

    Among the decimals that read back as the given double the text takes one with the fewest digits,
    and of those the nearest. For each digit count the two neighbours of the value on that decimal
    grid are tested in exact arithmetic: if a point of a grid reads back, so does one of these. -/

namespace LinkedDocs.Number.Shortest

/-- The numbers that read back as a double are an interval around it; all three numbers are
    numerators over `den`, and the ends belong to it iff `closed`. -/
structure Cell where
  low : Nat
  value : Nat
  high : Nat
  den : Nat
  closed : Bool

/-- The interval around `m · 2 ^ e`. Below a power of two the next double is half as far away. -/
def Cell.around (m : Nat) (e : Int) : Cell :=
  let below := if m = Binary64.leadingBit ∧ e > -1074 then 4 * m - 1 else 4 * m - 2
  let e := e - 2
  let scale := if e < 0 then 1 else Nat.pow 2 e.natAbs
  { low := below * scale, value := 4 * m * scale, high := (4 * m + 2) * scale
    den := if e < 0 then Nat.pow 2 e.natAbs else 1
    closed := m % 2 = 0 }

/-- Whether `n / d` lies in the interval. -/
def Cell.holds (c : Cell) (n d : Nat) : Bool :=
  if c.closed then c.low * d ≤ n * c.den && n * c.den ≤ c.high * d
  else c.low * d < n * c.den && n * c.den < c.high * d

/-- `num / den` is at least `10 ^ k`. -/
def atLeastPower (num den : Nat) (k : Int) : Bool :=
  if k < 0 then num * Nat.pow 10 k.natAbs ≥ den else num ≥ den * Nat.pow 10 k.natAbs

/-- The exponent `k` with `10 ^ k ≤ num / den < 10 ^ (k + 1)`, from a guess that is off by one at
    most. -/
def exponentOf (num den : Nat) : Int :=
  let guess := ((Nat.log2 num : Int) - Nat.log2 den) * 30103 / 100000
  if atLeastPower num den (guess + 1) then guess + 1
  else if atLeastPower num den guess then guess
  else guess - 1

/-- The best decimal with `count` digits, as an integer and the exponent of its last digit. -/
def decimalWith (c : Cell) (k : Int) (count : Nat) : Option (Nat × Int) :=
  let last := k - count + 1
  -- the value in units of the last digit
  let power := Nat.pow 10 last.natAbs
  let num := if last < 0 then c.value * power else c.value
  let den := if last < 0 then c.den else c.den * power
  let holds (d : Nat) : Bool :=
    if last < 0 then c.holds d power else c.holds (d * power) 1
  let d := num / den
  let twice := 2 * (num % den)
  let down := holds d
  let up := holds (d + 1)
  if down && (!up || twice < den || (twice == den && d % 2 == 0)) then some (d, last)
  else if up then some (d + 1, last)
  else none

/-- Tries the digit counts from `count` on, `fuel` of them. -/
def search (c : Cell) (k : Int) : Nat → Nat → Nat × Int
  | 0, _ => (0, 0)
  | fuel + 1, count => (decimalWith c k count).getD (search c k fuel (count + 1))

/-- Moves trailing zeros into the exponent. -/
def dropZeros : Nat → Nat × Int → Nat × Int
  | 0, r => r
  | fuel + 1, (d, e) => if d % 10 = 0 ∧ d ≠ 0 then dropZeros fuel (d / 10, e + 1) else (d, e)

/-- The digits of the shortest decimal of `m · 2 ^ e` and the exponent of the first one. -/
def digits (m : Nat) (e : Int) : List Char × Int :=
  let c := Cell.around m e
  let (d, last) := dropZeros 20 (search c (exponentOf c.value c.den) 17 1)
  let ds := Nat.toDigits 10 d
  (ds, last + ds.length - 1)

/-- Where the text changes to scientific notation and how it is spelt. -/
structure Layout where
  /-- Exponents of the first digit that are written positionally. -/
  lowest : Int
  highest : Int
  /-- Least number of digits of the written exponent. -/
  exponentWidth : Nat

/-- Positional from a ten-thousandth up to sixteen digits; a whole number keeps a `.0`, and an
    exponent has a sign and at least two digits. -/
def layout : Layout := ⟨-4, 15, 2⟩

def pad (width : Nat) (ds : List Char) : List Char :=
  List.replicate (width - ds.length) '0' ++ ds

/-- Digits with the first one at `10 ^ e`, laid out. -/
def write (l : Layout) (ds : List Char) (e : Int) : List Char :=
  if l.lowest ≤ e ∧ e ≤ l.highest then
    if e < 0 then '0' :: '.' :: List.replicate (e.natAbs - 1) '0' ++ ds
    else
      let whole := ds.take (e.natAbs + 1)
      let whole := whole ++ List.replicate (e.natAbs + 1 - whole.length) '0'
      let fraction := ds.drop (e.natAbs + 1)
      whole ++ '.' :: (if fraction.isEmpty then ['0'] else fraction)
  else
    let fraction := ds.drop 1
    ds.take 1 ++ (if fraction.isEmpty then [] else '.' :: fraction) ++
      'e' :: (if e < 0 then '-' else '+') :: pad l.exponentWidth (Nat.toDigits 10 e.natAbs)

/-- The text of a double. -/
def text (x : Float) : String :=
  match Binary64.ofFloat x with
  | .undefined => "nan"
  | .infinite negative => if negative then "-inf" else "inf"
  | .finite negative m e =>
    let body := if m = 0 then ['0', '.', '0'] else
      let (ds, k) := digits m e
      write layout ds k
    String.ofList (if negative then '-' :: body else body)

end LinkedDocs.Number.Shortest
