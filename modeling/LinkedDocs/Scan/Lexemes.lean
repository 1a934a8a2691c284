import LinkedDocs.Text.Digit

/-! Lengths of the lexemes that the languages share.

    Each function measures the lexeme at the start of a text: quoted strings, numerals, and runs of
    characters of one class. -/

namespace LinkedDocs.Scan

/-- How many characters at the start are of a class. -/
def runLength (p : Char → Bool) (cs : List Char) : Nat := (cs.takeWhile p).length

/-- Length of a string from behind its opening quote to its closing one. A backslash takes the next
    character with it, unless that ends the line. -/
def stringTail (quote : Char) : List Char → Option Nat
  | [] => none
  | [c] => if c = quote then some 1 else none
  | c :: d :: cs =>
    if c = quote then some 1
    else if c = '\\' then
      if d = '\n' then none else (stringTail quote cs).map (· + 2)
    else (stringTail quote (d :: cs)).map (· + 1)

/-- Length of a string in single or double quotes. -/
def stringLength? : List Char → Option Nat
  | c :: cs => if c = '\'' ∨ c = '"' then (stringTail c cs).map (· + 1) else none
  | [] => none

/-- Length of a run of digits with an optional minus sign. -/
def integerLength? (cs : List Char) : Option Nat :=
  let sign := if cs.head? = some '-' then 1 else 0
  let n := runLength Text.isDigit (cs.drop sign)
  if n = 0 then none else some (sign + n)

/-- Length of a point and a run of digits. -/
def fractionLength? : List Char → Option Nat
  | '.' :: cs =>
    let n := runLength Text.isDigit cs
    if n = 0 then none else some (n + 1)
  | _ => none

/-- Length of an exponent: its mark, an optional sign and digits. -/
def exponentLength? : List Char → Option Nat
  | c :: cs =>
    if c = 'e' ∨ c = 'E' then
      let sign := if cs.head? = some '-' ∨ cs.head? = some '+' then 1 else 0
      let n := runLength Text.isDigit (cs.drop sign)
      if n = 0 then none else some (1 + sign + n)
    else none
  | [] => none

/-- Length of a question mark and a run of digits. -/
def placeholderLength? : List Char → Option Nat
  | '?' :: cs =>
    let n := runLength Text.isDigit cs
    if n = 0 then none else some (n + 1)
  | _ => none

/-- Letters of the basic alphabet and the underscore. -/
def isLetter (c : Char) : Bool := c.isAlpha || c == '_'

/-- Blanks between tokens. -/
def isGap (c : Char) : Bool := c == ' ' || c == '\t' || c == '\r' || c == '\n'

end LinkedDocs.Scan
