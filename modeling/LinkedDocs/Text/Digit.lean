/-! Decimal digits of every script.

    A numeral in a template may be written with the digits of any script. The digits of one script
    are ten consecutive code points, so the table holds the zero of each run and a digit's value is
    its distance from that zero. Every run of digits denotes a number, but only a run that is not
    too long is read as an integer, and only an integer of that many digits is written. -/

namespace LinkedDocs.Text

/-- Code points of the digit zero of each script (general category Nd). -/
def digitZeros : List Nat :=
  [0x30, 0x660, 0x6f0, 0x7c0, 0x966, 0x9e6, 0xa66, 0xae6, 0xb66, 0xbe6, 0xc66, 0xce6, 0xd66,
   0xde6, 0xe50, 0xed0, 0xf20, 0x1040, 0x1090, 0x17e0, 0x1810, 0x1946, 0x19d0, 0x1a80, 0x1a90,
   0x1b50, 0x1bb0, 0x1c40, 0x1c50, 0xa620, 0xa8d0, 0xa900, 0xa9d0, 0xa9f0, 0xaa50, 0xabf0,
   0xff10, 0x104a0, 0x10d30, 0x11066, 0x110f0, 0x11136, 0x111d0, 0x112f0, 0x11450, 0x114d0,
   0x11650, 0x116c0, 0x11730, 0x118e0, 0x11950, 0x11c50, 0x11d50, 0x11da0, 0x16a60, 0x16ac0,
   0x16b50, 0x1d7ce, 0x1d7d8, 0x1d7e2, 0x1d7ec, 0x1d7f6, 0x1e140, 0x1e2f0, 0x1e950, 0x1fbf0]

/-- The value of a decimal digit, if the character is one. -/
def digitValue? (c : Char) : Option Nat :=
  (digitZeros.find? fun z => z ≤ c.toNat && c.toNat < z + 10).map (c.toNat - ·)

def isDigit (c : Char) : Bool := (digitValue? c).isSome

/-- The most digits of a numeral that is read and of an integer that is written. -/
def digitLimit : Nat := 4300

/-- Whether a numeral can be read as an integer. Zeros in front are digits, signs and marks are
    not. -/
def isReadable (numeral : List Char) : Bool := numeral.countP isDigit ≤ digitLimit

/-- Whether an integer can be written in decimal digits. -/
def isWritable (n : Int) : Bool := (Nat.toDigits 10 n.natAbs).length ≤ digitLimit

/-- The number a run of digits denotes, however long it is; anything that is not a digit counts as
    zero. -/
def digitsValue (cs : List Char) : Nat :=
  cs.foldl (fun n c => 10 * n + (digitValue? c).getD 0) 0

/-- The integer that a numeral with an optional minus sign denotes, however long it is. -/
def integerValue : List Char → Int
  | '-' :: cs => -(digitsValue cs : Int)
  | cs => digitsValue cs

theorem digitValue?_lt {c : Char} {n : Nat} (h : digitValue? c = some n) : n < 10 := by
  obtain ⟨z, hz, rfl⟩ := Option.map_eq_some_iff.1 h
  have := List.find?_some hz
  simp only [Bool.and_eq_true, decide_eq_true_eq] at this
  omega

end LinkedDocs.Text
