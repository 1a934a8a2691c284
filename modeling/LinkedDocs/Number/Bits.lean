/-! Bitwise operations on integers of any size.

    A negative integer counts as its two's complement with infinitely many leading ones, so
    `-n - 1` is the complement of `n`. Each operation is carried out on the naturals below the sign
    and the sign is put back. -/

namespace LinkedDocs.Number.Bits

/-- The complement: all bits flipped. -/
def not (n : Int) : Int := -n - 1

/-- Bits of `a` that are not set in `b`. -/
def andNot (a b : Nat) : Nat := a ^^^ (a &&& b)

def and : Int → Int → Int
  | .ofNat a, .ofNat b => .ofNat (a &&& b)
  | .ofNat a, .negSucc b => .ofNat (andNot a b)
  | .negSucc a, .ofNat b => .ofNat (andNot b a)
  | .negSucc a, .negSucc b => .negSucc (a ||| b)

def or (a b : Int) : Int := not (and (not a) (not b))

def xor (a b : Int) : Int := and (or a b) (not (and a b))

example : and (-2) 7 = 6 ∧ or (-8) 3 = -5 ∧ xor (-1) 5 = -6 := by decide

end LinkedDocs.Number.Bits
