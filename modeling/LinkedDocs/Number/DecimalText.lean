import LinkedDocs.Text.Digit
import LinkedDocs.Number.Reading

/-! Decimal numbers of exact precision, kept as text.

    The digits and the exponent are kept as written, so `1.50` and `1.5` stay apart. The text is
    positional unless the number is very small or its exponent is positive. -/

namespace LinkedDocs.Number.DecimalText

/-- Digits with the exponent of the last one, laid out. -/
def layOut (ds : List Char) (exponent : Int) : List Char :=
  let left := exponent + ds.length
  let dot := if exponent ≤ 0 ∧ left > -6 then left else 1
  let body :=
    if dot ≤ 0 then '0' :: '.' :: List.replicate dot.natAbs '0' ++ ds
    else if dot.natAbs ≥ ds.length then ds ++ List.replicate (dot.natAbs - ds.length) '0'
    else ds.take dot.natAbs ++ '.' :: ds.drop dot.natAbs
  if left = dot then body
  else
    let e := left - dot
    body ++ 'E' :: (if e < 0 then '-' else '+') :: Nat.toDigits 10 e.natAbs

/-- The normal text of a finite decimal. -/
def normalFinite? (cs : List Char) : Option (List Char) := do
  let whole := cs.takeWhile Text.isDigit
  let rest := cs.dropWhile Text.isDigit
  let (fraction, rest) := match rest with
    | '.' :: rest => (rest.takeWhile Text.isDigit, rest.dropWhile Text.isDigit)
    | rest => ([], rest)
  if whole.isEmpty && fraction.isEmpty then none
  else
    let exponent ← match rest with
      | [] => some (0 : Int)
      | e :: rest =>
        let (negative, ds) := takeSign rest
        if !(e = 'e' ∨ e = 'E') || ds.isEmpty || !ds.all Text.isDigit then none
        else
          let n : Int := Text.digitsValue ds
          some (if negative then -n else n)
    let digits := Nat.toDigits 10 (Text.digitsValue (whole ++ fraction))
    some (layOut digits (exponent - fraction.length))

/-- The normal text of a decimal; neither blanks nor separators may stand in it. -/
def normal? (s : String) : Option String := do
  let (negative, cs) := takeSign s.toList
  let word := String.ofList (cs.map Char.toLower)
  let body ←
    if word = "inf" ∨ word = "infinity" then some "Infinity".toList
    else if word = "nan" then some "NaN".toList
    else normalFinite? cs
  some (String.ofList (if negative then '-' :: body else body))

end LinkedDocs.Number.DecimalText
