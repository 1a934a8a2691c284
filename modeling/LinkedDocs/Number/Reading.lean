import LinkedDocs.Number.Binary64
import LinkedDocs.Text.Digit
import LinkedDocs.Text.Blank
import LinkedDocs.Text.Quoted

/-! Numbers read from text.

    A number may stand between blanks and have a sign, and an underscore may separate two digits.
    Digits of every script count. -/

namespace LinkedDocs.Number

/-- Removes underscores that stand between two digits; others are not allowed. -/
def dropSeparators? (isDigit : Char → Bool) : List Char → Option (List Char)
  | [] => some []
  | [a] => if a = '_' then none else some [a]
  | a :: '_' :: b :: cs =>
    if isDigit a && isDigit b then (dropSeparators? isDigit (b :: cs)).map (a :: ·) else none
  | a :: b :: cs =>
    if a = '_' ∨ b = '_' then none else (dropSeparators? isDigit (b :: cs)).map (a :: ·)

/-- A blank that may stand beside a number; the information separators may not. -/
def isPadding (c : Char) : Bool := Text.isBlank c && !(0x1c ≤ c.toNat && c.toNat ≤ 0x1f)

/-- The text without the blanks around it. -/
def unpadded (cs : List Char) : List Char :=
  ((cs.dropWhile isPadding).reverse.dropWhile isPadding).reverse

/-- Splits off a sign. -/
def takeSign : List Char → Bool × List Char
  | '-' :: cs => (true, cs)
  | '+' :: cs => (false, cs)
  | cs => (false, cs)

/-- Reads an integer, if it has not too many digits. -/
def readInt? (s : String) : Option Int := do
  let (negative, cs) := takeSign (unpadded s.toList)
  let cs ← dropSeparators? Text.isDigit cs
  if cs.isEmpty || !cs.all Text.isDigit || !Text.isReadable cs then none
  else
    let n : Int := Text.digitsValue cs
    some (if negative then -n else n)

/-- The value of a hexadecimal digit; decimal digits of every script count, too. -/
def hexDigitValue? (c : Char) : Option Nat := (Text.hexValue? c) <|> (Text.digitValue? c)

def isHexDigit (c : Char) : Bool := (hexDigitValue? c).isSome

/-- Drops the mark of a hexadecimal number. -/
def dropHexMark : List Char → List Char
  | '0' :: x :: cs =>
    if x = 'x' ∨ x = 'X' then (if cs.head? = some '_' then cs.drop 1 else cs) else '0' :: x :: cs
  | cs => cs

/-- Reads a hexadecimal integer. -/
def readHex? (s : String) : Option Int := do
  let (negative, cs) := takeSign (unpadded s.toList)
  let cs ← dropSeparators? isHexDigit (dropHexMark cs)
  if cs.isEmpty || !cs.all isHexDigit then none
  else
    let n : Int := cs.foldl (fun n c => 16 * n + (hexDigitValue? c).getD 0) 0
    some (if negative then -n else n)

/-- Reads a decimal with an optional point and exponent; one side of the point has digits. -/
def readDecimal? (negative : Bool) (cs : List Char) : Option Float := do
  let whole := cs.takeWhile Text.isDigit
  let rest := cs.dropWhile Text.isDigit
  let (fraction, rest) := match rest with
    | '.' :: rest => (rest.takeWhile Text.isDigit, rest.dropWhile Text.isDigit)
    | rest => ([], rest)
  if whole.isEmpty && fraction.isEmpty then none
  else
    let exponent ← match rest with
      | [] => some (0 : Int)
      | e :: rest =>
        if e = 'e' ∨ e = 'E' then
          let (negative, ds) := takeSign rest
          if ds.isEmpty || !ds.all Text.isDigit then none
          else
            let n : Int := Text.digitsValue ds
            some (if negative then -n else n)
        else none
    some (Binary64.ofDecimal negative (Text.digitsValue (whole ++ fraction))
      (exponent - fraction.length))

/-- Reads a double: a decimal, an infinity or the undefined number. -/
def readFloat? (s : String) : Option Float := do
  let (negative, cs) := takeSign (unpadded s.toList)
  let word := String.ofList (cs.map Char.toLower)
  if word = "inf" ∨ word = "infinity" then some (Binary64.infinity negative)
  else if word = "nan" then some (0.0 / 0.0)
  else do
    let cs ← dropSeparators? Text.isDigit cs
    readDecimal? negative cs

end LinkedDocs.Number
