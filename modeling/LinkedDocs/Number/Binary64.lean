/-! Binary floating point numbers as exact fractions.

    A finite double is `± m · 2 ^ e` for a natural number `m`. Reading it so makes conversions,
    comparisons with integers and remainders exact; the way back rounds a quotient of two naturals
    to the nearest double, a tie to the even neighbour. -/

namespace LinkedDocs.Number

/-- What a double stands for. -/
inductive Binary64 where
  | finite (negative : Bool) (mantissa : Nat) (exponent : Int)
  | infinite (negative : Bool)
  | undefined
  deriving DecidableEq, Repr

namespace Binary64

/-- `2 ^ 52`: the weight of the leading bit of a mantissa, which normal doubles leave out. -/
def leadingBit : Nat := 0x10000000000000

/-- `2 ^ 63`: the weight of the sign among the 64 bits. -/
def signBit : Nat := 0x8000000000000000

def ofFloat (x : Float) : Binary64 :=
  let bits := x.toBits.toNat
  let negative := bits / signBit == 1
  let biased : Nat := bits / leadingBit % 2048
  let fraction : Nat := bits % leadingBit
  if biased = 2047 then
    if fraction = 0 then .infinite negative else .undefined
  else if biased = 0 then .finite negative fraction (-1074)
  else .finite negative (leadingBit + fraction) ((biased : Int) - 1075)

/-- The double with the given sign, biased exponent and 52 bit fraction. -/
def pack (negative : Bool) (biased fraction : Nat) : Float :=
  Float.ofBits (UInt64.ofNat ((if negative then signBit else 0) + biased * leadingBit + fraction))

def infinity (negative : Bool) : Float := pack negative 2047 0

/-- `num / den` as a quotient and what is left over, rounded to nearest, a tie to even. -/
def roundDiv (num den : Nat) : Nat :=
  let q := num / den
  let r := num % den
  if 2 * r > den ∨ (2 * r = den ∧ q % 2 = 1) then q + 1 else q

/-- The double nearest to `± num / den`. A rounded mantissa of `2 ^ 53` carries into the exponent
    by itself, because fraction and exponent are added up. -/
def ofRatio (negative : Bool) (num den : Nat) : Float :=
  if num = 0 ∨ den = 0 then pack negative 0 0
  else
    let guess : Int := (Nat.log2 num : Int) - Nat.log2 den - 52
    -- the quotient at `guess` has 53 or 54 bits; one step more leaves 52 or 53
    let scaled (e : Int) : Nat × Nat :=
      if e < 0 then (num * Nat.pow 2 e.natAbs, den) else (num, den * Nat.pow 2 e.natAbs)
    let exponent := if (scaled guess).1 / (scaled guess).2 < leadingBit then guess - 1 else guess
    let exponent := max exponent (-1074)
    let mantissa := roundDiv (scaled exponent).1 (scaled exponent).2
    if mantissa < leadingBit then pack negative 0 mantissa
    else
      let biased := (exponent + 1075).toNat
      if biased ≥ 2047 ∨ (biased = 2046 ∧ mantissa = 2 * leadingBit) then infinity negative
      else pack negative biased (mantissa - leadingBit)

/-- The double nearest to `± mantissa · 10 ^ exponent`. Far outside the range of doubles the power
    is not computed. -/
def ofDecimal (negative : Bool) (mantissa : Nat) (exponent : Int) : Float :=
  let magnitude : Int := (Nat.log2 mantissa : Int) * 3 / 10 + exponent
  if mantissa = 0 then pack negative 0 0
  else if magnitude > 400 then infinity negative
  else if magnitude < -400 then pack negative 0 0
  else if exponent < 0 then ofRatio negative mantissa (Nat.pow 10 exponent.natAbs)
  else ofRatio negative (mantissa * Nat.pow 10 exponent.natAbs) 1

/-- The double nearest to an integer, unless it is out of range. -/
def ofInt? (n : Int) : Option Float :=
  let x := ofRatio (n < 0) n.natAbs 1
  if x.isInf then none else some x

/-- The fraction a finite double stands for, numerator and positive denominator. -/
def ratio? (x : Float) : Option (Int × Nat) :=
  match ofFloat x with
  | .finite negative m e =>
    let m : Int := if negative then -m else m
    some (if e < 0 then (m, Nat.pow 2 e.natAbs) else (m * Nat.pow 2 e.natAbs, 1))
  | _ => none

/-- The integer part, cut off toward zero. -/
def truncate? (x : Float) : Option Int := (ratio? x).map fun r => Int.tdiv r.1 r.2

/-- How an integer compares with a double; `none` if the double is undefined. -/
def compareInt? (n : Int) (x : Float) : Option Ordering :=
  match ofFloat x, ratio? x with
  | .infinite negative, _ => some (if negative then .gt else .lt)
  | _, some r => some (compare (n * r.2) r.1)
  | _, none => none

def isNegative (x : Float) : Bool := x.toBits.toNat / signBit == 1

def copySign (x sign : Float) : Float :=
  pack (isNegative sign) 0 (x.toBits.toNat % signBit)

/-- The remainder of the division cut off toward zero; it has the sign of the dividend. -/
def remainder (x y : Float) : Float :=
  match ofFloat x, ofFloat y, ratio? x, ratio? y with
  | .finite .., .infinite _, _, _ => x
  | _, _, some a, some b =>
    if b.1 = 0 then 0.0 / 0.0
    else
      -- over the common denominator the remainder is one of integers
      let r := Int.tmod (a.1 * b.2) (b.1 * a.2)
      ofRatio (isNegative x) r.natAbs (a.2 * b.2)
  | _, _, _, _ => 0.0 / 0.0

/-- Quotient and remainder of the division rounded down; the remainder has the divisor's sign. -/
def divModFloor (x y : Float) : Float × Float :=
  let r := remainder x y
  let q := (x - r) / y
  let adjust := r != 0.0 && (y < 0.0) != (r < 0.0)
  let m := if r == 0.0 then copySign 0.0 y else if adjust then r + y else r
  let q := if adjust then q - 1.0 else q
  let d :=
    if q == 0.0 then copySign 0.0 (x / y)
    else
      let f := q.floor
      if q - f > 0.5 then f + 1.0 else f
  (d, m)

/-- Whether the double is a whole number. -/
def isWhole (x : Float) : Bool :=
  match ratio? x with
  | some r => r.1 % r.2 = 0
  | none => false

end Binary64

end LinkedDocs.Number
