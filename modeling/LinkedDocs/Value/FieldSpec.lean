import LinkedDocs.Value.Formatting

/-! How a value fills a field of a text.

    A specification says how a text or number is written and placed: a filling character and an
    alignment, a sign, the mark of a base, a width, separators between groups of digits, a
    precision, and the letter of a form. Values of other types take no specification. -/

namespace LinkedDocs.Value

/-- A specification; what it leaves out depends on the type of the value. -/
structure FieldSpec where
  fill : Char
  /-- One of `<`, `>`, `^` and, for numbers, `=`: the filling goes behind the sign. -/
  align : Option Char
  sign : Option Char
  /-- A zero that results from rounding has no sign. -/
  unsignedZero : Bool
  alternate : Bool
  width : Nat
  separator : Option Char
  precision : Option Nat
  letter : Option Char
  deriving DecidableEq, Repr

namespace FieldSpec

def isAlign (c : Char) : Bool := c ∈ ['<', '>', '=', '^']

/-- A character of some, if it comes next. -/
def takeOne (chars : List Char) : List Char → Option Char × List Char
  | c :: cs => if c ∈ chars then (some c, cs) else (none, c :: cs)
  | [] => (none, [])

/-- The greatest width. -/
def greatest : Nat := 0x7fffffffffffffff

/-- A number, if one comes next. -/
def takeNumber (cs : List Char) : Except Misuse (Option Nat × List Char) :=
  let ds := cs.takeWhile Text.isDigit
  let n := Text.digitsValue ds
  if ds.isEmpty then .ok (none, cs)
  else if n ≤ greatest then .ok (some n, cs.dropWhile Text.isDigit)
  else .error .content

/-- Filling character and alignment. -/
def takeAlign (cs : List Char) : Option Char × Option Char × List Char :=
  match cs with
  | f :: a :: rest =>
    if isAlign a then (some f, some a, rest)
    else if isAlign f then (none, some f, a :: rest)
    else (none, none, cs)
  | [a] => if isAlign a then (none, some a, []) else (none, none, cs)
  | [] => (none, none, [])

/-- The separator of groups of digits; there is one at most. -/
def takeSeparator : List Char → Except Misuse (Option Char × List Char)
  | ',' :: '_' :: _ | '_' :: ',' :: _ => .error .content
  | ',' :: cs => .ok (some ',', cs)
  | '_' :: cs => .ok (some '_', cs)
  | cs => .ok (none, cs)

/-- The precision, which has to follow a point. -/
def takePrecision (cs : List Char) : Except Misuse (Option Nat × List Char) := do
  match cs with
  | '.' :: cs =>
    match ← takeNumber cs with
    | (none, _) => .error .content
    | r => pure r
  | cs => pure (none, cs)

/-- Whether the digits of a form are grouped by a separator. -/
def allowsSeparator (separator letter : Char) : Bool :=
  letter ∈ ['d', 'e', 'f', 'g', 'E', 'G', '%', 'F'] ||
    (separator == '_' && letter ∈ ['b', 'o', 'x', 'X'])

/-- Reads a specification for a number or for a text, which has the form of the given letter unless
    it says otherwise. A zero before the width fills the field up behind the sign. -/
def read (isNumber : Bool) (form : Char) (cs : List Char) : Except Misuse FieldSpec := do
  let (fill, align, cs) := takeAlign cs
  let (sign, cs) := takeOne [' ', '+', '-'] cs
  let (unsignedZero, cs) := takeOne ['z'] cs
  let (alternate, cs) := takeOne ['#'] cs
  let (zero, cs) := if fill.isNone then takeOne ['0'] cs else (none, cs)
  let align := if zero.isSome && align.isNone && isNumber then some '=' else align
  let (width, cs) ← takeNumber cs
  let (separator, cs) ← takeSeparator cs
  let (precision, cs) ← takePrecision cs
  let letter ← match cs with
    | [] => .ok none
    | [c] => .ok (some c)
    | _ => .error .content
  if separator.any fun s => !allowsSeparator s (letter.getD form) then .error .content
  else
    pure { fill := (fill.or zero).getD ' ', align, sign, unsignedZero := unsignedZero.isSome
           alternate := alternate.isSome, width := width.getD 0, separator, precision, letter }

/-! ### Placing -/

/-- A text in its field. -/
def placed (s : FieldSpec) (default : Char) (head body : List Char) : List Char :=
  let filling (n : Nat) : List Char := List.replicate n s.fill
  let missing := s.width - (head.length + body.length)
  match s.align.getD default with
  | '<' => head ++ body ++ filling missing
  | '^' => filling (missing / 2) ++ head ++ body ++ filling (missing - missing / 2)
  | '=' => head ++ filling missing ++ body
  | _ => filling missing ++ head ++ body

/-- Digits, backwards, in groups; zeros are added up to a least width. -/
def groups (separator : Char) (size : Nat) : (fuel : Nat) → List Char → Int → List Char
  | 0, ds, _ => ds
  | fuel + 1, ds, least =>
    let count := min size (max (max ds.length least.toNat) 1)
    let group := ds.take count
    let group := group ++ List.replicate (count - group.length) '0'
    let rest := ds.drop count
    let least := least - count
    if rest.isEmpty ∧ least ≤ 0 then group
    else group ++ separator :: groups separator size fuel rest (least - 1)

/-- The digits before the point, filled up with zeros to a least width and in groups. -/
def grouped (s : FieldSpec) (size : Nat) (ds : List Char) (least : Int) : List Char :=
  if ds.isEmpty then []
  else
    match s.separator with
    | none => List.replicate (least.toNat - ds.length) '0' ++ ds
    | some c => (groups c size (ds.length + least.toNat) ds.reverse least).reverse

/-- The sign that a number shows. -/
def signOf (s : FieldSpec) (negative : Bool) : List Char :=
  if negative then ['-']
  else
    match s.sign with
    | some '+' => ['+']
    | some ' ' => [' ']
    | _ => []

/-- A number in its field: sign and mark, the digits before the point, and the rest. -/
def number (s : FieldSpec) (size : Nat) (head digits rest : List Char) : List Char :=
  let least : Int :=
    if s.fill = '0' ∧ s.align = some '=' then s.width - (head.length + rest.length : Nat) else 0
  s.placed '>' head (s.grouped size digits least ++ rest)

/-! ### Values -/

/-- A text in its field, cut off after as many characters as the precision says. -/
def ofText (s : FieldSpec) (cs : List Char) : Except Misuse (List Char) :=
  if s.letter.any (· ≠ 's') ∨ s.sign.isSome ∨ s.unsignedZero ∨ s.alternate ∨ s.align = some '=' then
    .error .content
  else .ok (s.placed '<' [] (cs.take (s.precision.getD cs.length)))

/-- The digits before the point, and what follows them. -/
def splitNumber (cs : List Char) : List Char × List Char :=
  (cs.takeWhile Char.isDigit, cs.dropWhile Char.isDigit)

/-- A point before the exponent or at the end, unless there is one. -/
def withPoint (cs : List Char) : List Char :=
  if cs.contains '.' ∨ !cs.any Char.isDigit then cs
  else cs.takeWhile (· ≠ 'e') ++ '.' :: cs.dropWhile (· ≠ 'e')

/-- The text of a double in the form of the letter. -/
def realBody (s : FieldSpec) (x : Float) : Except Misuse (List Char) :=
  let text (style : Number.Fixed.Style) (x : Float) : List Char :=
    Number.Fixed.text style (s.precision.getD 6) s.alternate x
  match s.letter with
  | none =>
    if s.precision.isSome then .ok (text .decimal x)
    else
      let cs := (Number.Shortest.text x).toList
      .ok (if s.alternate then withPoint cs else cs)
  | some 'e' => .ok (text .scientific x)
  | some 'f' => .ok (text .fixed x)
  | some 'g' | some 'n' => .ok (text .general x)
  | some 'E' => .ok ((text .scientific x).map Char.toUpper)
  | some 'F' => .ok ((text .fixed x).map Char.toUpper)
  | some 'G' => .ok ((text .general x).map Char.toUpper)
  | some '%' => .ok (text .fixed (x * 100.0) ++ ['%'])
  | some _ => .error .content

/-- Whether the digits of a number are all zero. -/
def isZeroText (cs : List Char) : Bool :=
  let digits := cs.takeWhile fun c => c ≠ 'e' && c ≠ 'E'
  digits.any Char.isDigit && digits.all fun c => !c.isDigit || c == '0'

/-- A double in its field. -/
def ofReal (s : FieldSpec) (x : Float) : Except Misuse (List Char) := do
  if s.precision.any (· > 0x7fffffff) then .error .content
  else
    let cs ← s.realBody x
    let (negative, cs) := match cs with
      | '-' :: cs => (!(s.unsignedZero && isZeroText cs), cs)
      | cs => (false, cs)
    let (digits, rest) := splitNumber cs
    pure (s.number 3 (s.signOf negative) digits rest)

/-- The base of an integer's form, its mark, and the size of a group of digits. -/
def base? (letter : Char) : Option (Nat × List Char × Nat) :=
  match letter with
  | 'd' | 'n' => some (10, [], 3)
  | 'b' => some (2, ['0', 'b'], 4)
  | 'o' => some (8, ['0', 'o'], 4)
  | 'x' => some (16, ['0', 'x'], 4)
  | 'X' => some (16, ['0', 'X'], 4)
  | _ => none

/-- The letters of doubles. -/
def isReal (letter : Char) : Bool := letter ∈ ['e', 'E', 'f', 'F', 'g', 'G', '%']

/-- An integer in its field. -/
def ofWhole (s : FieldSpec) (n : Int) : Except Misuse (List Char) := do
  let letter := s.letter.getD 'd'
  if isReal letter then
    match Number.Binary64.ofInt? n with
    | some x => s.ofReal x
    | none => .error .overflow
  else if letter = 'c' then
    if s.precision.isSome ∨ s.unsignedZero ∨ s.sign.isSome ∨ s.alternate then .error .content
    else if 0 ≤ n ∧ n < 0x110000 then pure (s.placed '>' [] [Char.ofNat n.toNat])
    else .error .overflow
  else
    match base? letter with
    | none => .error .content
    | some (base, mark, size) =>
      if s.precision.isSome ∨ s.unsignedZero then .error .content
      else if base = 10 ∧ !Text.isWritable n then .error .content
      else
        let ds := Nat.toDigits base n.natAbs
        let ds := if letter = 'X' then ds.map Char.toUpper else ds
        pure (s.number size (s.signOf (n < 0) ++ if s.alternate then mark else []) ds [])

end FieldSpec

/-- The text with which a value fills a field. Without a specification it is that of the value. -/
def fieldText (v : Value) (spec : List Char) : Except Misuse (List Char) := do
  if spec.isEmpty then do
    let s ← v.written
    pure s.toList
  else
    match v with
    | .text t | .code t _ => do
      let s ← FieldSpec.read false 's' spec
      s.ofText t.toList
    | .float x => do
      let s ← FieldSpec.read true 'g' spec
      s.ofReal x
    | v =>
      match v.int? with
      | some n => do
        let s ← FieldSpec.read true 'd' spec
        s.ofWhole n
      | none => .error .type

end LinkedDocs.Value
