import LinkedDocs.Text.Printable

/-! Quoted text.

    Messages show a text between quotes: single ones, unless the text holds a single quote and no
    double one. The quote, the backslash and the three usual control characters are escaped with a
    backslash, and what has no visible form is written by its code point. -/

namespace LinkedDocs.Text

def hexDigit (n : Nat) : Char := if n < 10 then Char.ofNat (48 + n) else Char.ofNat (87 + n)

/-- The last `width` hexadecimal digits of `n`, in lower case. -/
def hex : Nat → Nat → List Char
  | 0, _ => []
  | width + 1, n => hex width (n / 16) ++ [hexDigit (n % 16)]

/-- The value of a hexadecimal digit of either case. -/
def hexValue? (c : Char) : Option Nat :=
  if '0' ≤ c ∧ c ≤ '9' then some (c.toNat - 48)
  else if 'a' ≤ c ∧ c ≤ 'f' then some (c.toNat - 87)
  else if 'A' ≤ c ∧ c ≤ 'F' then some (c.toNat - 55)
  else none

/-- The number a run of hexadecimal digits denotes. -/
def hexNumber (cs : List Char) : Nat := cs.foldl (fun n c => 16 * n + (hexValue? c).getD 0) 0

/-- The quote a text is shown in. -/
def quoteFor (s : List Char) : Char := if '\'' ∈ s ∧ '"' ∉ s then '"' else '\''

/-- A character as it is shown between two quotes `q`. -/
def showChar (q c : Char) : List Char :=
  if c = q ∨ c = '\\' then ['\\', c]
  else if c = '\n' then ['\\', 'n']
  else if c = '\r' then ['\\', 'r']
  else if c = '\t' then ['\\', 't']
  else if isPrintable c then [c]
  else if c.toNat < 0x100 then '\\' :: 'x' :: hex 2 c.toNat
  else if c.toNat < 0x10000 then '\\' :: 'u' :: hex 4 c.toNat
  else '\\' :: 'U' :: hex 8 c.toNat

/-- A text in quotes. -/
def quoted (s : String) : String :=
  let q := quoteFor s.toList
  String.ofList (q :: s.toList.flatMap (showChar q) ++ [q])

/-- A byte as it is shown between two quotes `q`: what is not visible ASCII is written in hex. -/
def showByte (q : Char) (b : UInt8) : List Char :=
  let c := Char.ofNat b.toNat
  if b < 0x80 then showChar q c else '\\' :: 'x' :: hex 2 b.toNat

/-- A byte string in quotes, marked as such. -/
def quotedBytes (bs : List UInt8) : String :=
  let q := quoteFor (bs.map fun b => Char.ofNat b.toNat)
  String.ofList ('b' :: q :: bs.flatMap (showByte q) ++ [q])

/-- Hexadecimal digits of a byte string, in lower case. -/
def hexBytes (bs : List UInt8) : String := String.ofList (bs.flatMap fun b => hex 2 b.toNat)

/-- Reads hexadecimal digits in pairs. -/
def bytesOfHex? : List Char → Option (List UInt8)
  | [] => some []
  | [_] => none
  | a :: b :: cs => do
    let x ← hexValue? a
    let y ← hexValue? b
    let rest ← bytesOfHex? cs
    pure (UInt8.ofNat (16 * x + y) :: rest)

example : quoted "it's" = "\"it's\"" := by decide +kernel
example : quoted "a\n'\"" = "'a\\n\\'\"'" := by decide +kernel

theorem hex_length (width n : Nat) : (hex width n).length = width := by
  induction width generalizing n with
  | zero => rfl
  | succ w ih => simp [hex, ih]

end LinkedDocs.Text
