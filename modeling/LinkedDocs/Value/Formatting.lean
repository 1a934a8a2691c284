import LinkedDocs.Number.Fixed
import LinkedDocs.Value.Container
import LinkedDocs.Value.Shown

/-! Texts with places for values.

    A percent sign in a text starts a directive: which value goes there, how wide it is, with how
    many digits, and how it is written. Values are taken one after the other from a tuple, or by key
    from whatever has items; a value that is left over or missing is a misuse. Byte strings have
    the same directives; a byte string goes into them as it is.

    A lazily loaded reference is put in as its target. One that is not loaded stops the formatting,
    which is started again when it is. -/

namespace LinkedDocs.Value.Formatting

/-- Why nothing is put in. -/
inductive Stop where
  | misuse (m : Misuse)
  /-- The reference of this number has to be loaded first. -/
  | unloaded (id : Nat)
  deriving DecidableEq, Repr

/-- How values appear. -/
structure View where
  /-- The target of a reference; any other value itself. -/
  target : Value → Except Stop Value
  /-- The form in messages, of a reference its own. -/
  shown : Value → String
  /-- The text of a value that is no reference. -/
  plain : Value → String

/-- A misuse stops the formatting. -/
def fail {α : Type} (m : Misuse) : Except Stop α := .error (.misuse m)

def orStop {α : Type} (x : Except Misuse α) : Except Stop α := x.mapError .misuse

/-- A number that a value has to be: a text is none, but the target of a reference may be one that
    denotes a number. -/
def View.number {α : Type} (view : View) (read : Value → Except Misuse α) (v : Value) :
    Except Stop α :=
  match v with
  | .deferred .. => do
    let v ← view.target v
    orStop (read v)
  | v =>
    match v.numeric? with
    | some _ => orStop (read v)
    | none => fail .type

/-- The values that are still to be put in. -/
structure Arguments where
  /-- Where values are looked up by key. -/
  keyed : Option Value
  pending : List Value

/-- Whether values are looked up in it by key; a text, although it has items, is one value. -/
def isKeyed (bytes : Bool) : Value → Bool
  | .list _ | .map _ | .mapping .. | .deferred .. => true
  | .bytes .. => !bytes
  | _ => false

/-- The arguments that the right operand stands for. -/
def Arguments.of (bytes : Bool) (v : Value) : Arguments :=
  match v with
  | .tuple xs => ⟨none, xs⟩
  | v => ⟨if isKeyed bytes v then some v else none, [v]⟩

/-- How the text of a value is laid out. -/
structure Layout where
  /-- The value stands left in its field. -/
  left : Bool
  /-- The field is filled up with zeros. -/
  zeros : Bool
  /-- With the mark of the base, or with a point in any case. -/
  alternate : Bool
  /-- What stands in the place of a minus. -/
  plus : List Char
  width : Nat
  precision : Option Nat

/-- The characters that change the layout. -/
def flagChars : List Char := ['-', '+', ' ', '#', '0']

/-- The layout that the flags view for. -/
def Layout.ofFlags (flags : List Char) : Layout :=
  { left := flags.contains '-', zeros := flags.contains '0', alternate := flags.contains '#'
    plus := if flags.contains '+' then ['+'] else if flags.contains ' ' then [' '] else []
    width := 0, precision := none }

/-- The letters of numbers. -/
def isNumeric (letter : Char) : Bool :=
  letter ∈ ['d', 'i', 'u', 'o', 'x', 'X', 'e', 'E', 'f', 'F', 'g', 'G']

/-- The letters of bases that have a mark. -/
def isMarked (letter : Char) : Bool := letter ∈ ['o', 'x', 'X']

/-- The text of a value in its field. A sign and the mark of a base go before the zeros that fill it
    up, and before them the blanks. -/
def Layout.place (l : Layout) (letter : Char) (body : List Char) : List Char :=
  if isNumeric letter then
    let (sign, body) := match body with
      | '-' :: cs => (['-'], cs)
      | cs => (l.plus, cs)
    let marked := if l.alternate && isMarked letter then 2 else 0
    let head := sign ++ body.take marked
    let digits := body.drop marked
    let missing := l.width - (head.length + digits.length)
    if l.left then head ++ digits ++ List.replicate missing ' '
    else if l.zeros then head ++ List.replicate missing '0' ++ digits
    else List.replicate missing ' ' ++ head ++ digits
  else
    let body := if letter = 'c' then body else body.take (l.precision.getD body.length)
    let blanks := List.replicate (l.width - body.length) ' '
    if l.left then body ++ blanks else blanks ++ body

/-! ### How values are written -/

/-- What is outside ASCII, escaped. -/
def asciiOnly (s : String) : List Char :=
  s.toList.flatMap fun c =>
    if c.toNat < 0x80 then [c]
    else if c.toNat < 0x100 then '\\' :: 'x' :: Text.hex 2 c.toNat
    else if c.toNat < 0x10000 then '\\' :: 'u' :: Text.hex 4 c.toNat
    else '\\' :: 'U' :: Text.hex 8 c.toNat

/-- The base a letter stands for, and its mark. -/
def baseOf (letter : Char) : Nat × List Char :=
  match letter with
  | 'o' => (8, ['0', 'o'])
  | 'x' | 'X' => (16, ['0', 'x'])
  | _ => (10, [])

/-- An integer in the base of the letter; the precision is the least number of digits. -/
def wholeText (l : Layout) (letter : Char) (n : Int) : List Char :=
  let (base, mark) := baseOf letter
  let ds := Number.Shortest.pad (l.precision.getD 0) (Nat.toDigits base n.natAbs)
  let cs := (if n < 0 then ['-'] else []) ++ (if l.alternate then mark else []) ++ ds
  if letter = 'X' then cs.map Char.toUpper else cs

/-- A double in the form of the letter, with six digits unless told otherwise. -/
def realText (l : Layout) (letter : Char) (x : Float) : List Char :=
  let style : Number.Fixed.Style :=
    if letter.toLower = 'e' then .scientific else if letter.toLower = 'f' then .fixed else .general
  let cs := Number.Fixed.text style (l.precision.getD 6) l.alternate x
  if letter.isUpper then cs.map Char.toUpper else cs

/-- The bytes of a byte string as characters of the same codes. -/
def charsOfBytes (bs : List UInt8) : List Char := bs.map fun b => Char.ofNat b.toNat

def bytesOfChars (cs : List Char) : List UInt8 := cs.map fun c => UInt8.ofNat c.toNat

/-- The character of a code, out of a text or out of the 256 bytes. -/
def charOf (bytes : Bool) (n : Int) : Except Stop (List Char) :=
  let limit : Int := if bytes then 0x100 else 0x110000
  if 0 ≤ n ∧ n < limit then pure [Char.ofNat n.toNat] else fail .overflow

/-- One character: itself, or by its code. -/
def singleChar (view : View) (bytes : Bool) (v : Value) : Except Stop (List Char) :=
  match bytes, v with
  | true, .bytes _ bs => match bs with
    | [b] => pure (charsOfBytes [b])
    | _ => fail .type
  | bytes, v => match (if bytes then none else v.text?) with
    | some s => match s.toList with
      | [c] => pure [c]
      | _ => fail .type
    | none => do
      let v ← view.target v
      let n ← orStop v.toIndex
      charOf bytes n

/-- A value as the letter wants it, not yet in its field. -/
def convert (view : View) (bytes : Bool) (l : Layout) (letter : Char) (v : Value) :
    Except Stop (List Char) :=
  match letter with
  | 's' | 'b' =>
    if bytes then match v with
      | .bytes _ bs => pure (charsOfBytes bs)
      | _ => fail .type
    else if letter = 's' then do
      let v ← view.target v
      let s ← orStop (v.writtenAs view.plain)
      pure s.toList
    else fail .content
  | 'r' | 'a' =>
    let s := view.shown v
    if v.isShowable then pure (if bytes || letter = 'a' then asciiOnly s else s.toList)
    else fail .content
  | 'd' | 'i' | 'u' => do
    let n ← view.number toInt v
    if Text.isWritable n then pure (wholeText l letter n) else fail .content
  | 'o' | 'x' | 'X' => do
    let v ← view.target v
    let n ← orStop v.toIndex
    pure (wholeText l letter n)
  | 'e' | 'E' | 'f' | 'F' | 'g' | 'G' => do
    let x ← view.number toFloat v
    pure (realText l letter x)
  | 'c' => singleChar view bytes v
  | _ => fail .content

/-! ### Reading directives -/

/-- A key up to the parenthesis that closes it, with `depth` others open, and what follows. -/
def takeKey : (depth : Nat) → List Char → Option (List Char × List Char)
  | _, [] => none
  | 0, ')' :: cs => some ([], cs)
  | depth + 1, ')' :: cs => (takeKey depth cs).map fun r => (')' :: r.1, r.2)
  | depth, '(' :: cs => (takeKey (depth + 1) cs).map fun r => ('(' :: r.1, r.2)
  | depth, c :: cs => (takeKey depth cs).map fun r => (c :: r.1, r.2)

/-- The next value. -/
def next (args : Arguments) : Except Stop (Value × Arguments) :=
  match args.pending with
  | v :: vs => pure (v, { args with pending := vs })
  | [] => fail .type

/-- The key of a directive, if it has one: its value is the next one. -/
def readKey (view : View) (bytes : Bool) (args : Arguments) (cs : List Char) :
    Except Stop (Arguments × List Char) :=
  match cs with
  | '(' :: cs =>
    match args.keyed, takeKey 0 cs with
    | none, _ => fail .type
    | some _, none => fail .content
    | some v, some (key, cs) => do
      let key : Value := if bytes then .bytes none (bytesOfChars key) else .text (String.ofList key)
      let v ← view.target v
      let x ← orStop (v.getItem key)
      pure ({ args with pending := [x] }, cs)
  | cs => pure (args, cs)

/-- A number of characters or digits, up to a greatest one: written out, or an asterisk for the next
    value. -/
def readSize (greatest : Nat) (args : Arguments) (cs : List Char) :
    Except Stop (Option Int × Arguments × List Char) :=
  match cs with
  | '*' :: cs => do
    let (v, args) ← next args
    match v.int? with
    | none => fail .type
    | some n =>
      if -(greatest : Int) - 1 ≤ n ∧ n ≤ greatest then pure (some n, args, cs)
      else fail .overflow
  | cs =>
    let ds := cs.takeWhile Char.isDigit
    let n := Text.digitsValue ds
    if ds.isEmpty then pure (none, args, cs)
    else if n ≤ greatest then pure (some n, args, cs.dropWhile Char.isDigit)
    else fail .content

/-- The precision, if there is a point; a point alone means none at all. -/
def readPrecision (args : Arguments) (cs : List Char) :
    Except Stop (Option Nat × Arguments × List Char) :=
  match cs with
  | '.' :: cs => do
    let (size, args, cs) ← readSize 0x7fffffff args cs
    pure (some (size.getD 0).toNat, args, cs)
  | cs => pure (none, args, cs)

/-- A letter that says how large a number is, which makes no difference. -/
def skipLength : List Char → List Char
  | 'h' :: cs | 'l' :: cs | 'L' :: cs => cs
  | cs => cs

/-- The directive after a percent sign: what it puts there, the values left, and the text after
    it. -/
def readDirective (view : View) (bytes : Bool) (args : Arguments) (cs : List Char) :
    Except Stop (List Char × Arguments × List Char) := do
  let (args, cs) ← readKey view bytes args cs
  let l := Layout.ofFlags (cs.takeWhile (· ∈ flagChars))
  let (width, args, cs) ←
    readSize 0x7fffffffffffffff args (cs.dropWhile (· ∈ flagChars))
  let width := width.getD 0
  let (precision, args, cs) ← readPrecision args cs
  let l := { l with left := l.left || width < 0, width := width.natAbs, precision }
  match skipLength cs with
  | [] => fail .content
  | letter :: cs => do
    let (v, args) ← next args
    let body ← convert view bytes l letter v
    pure (l.place letter body, args, cs)

/-- The text with its directives carried out, `fuel` of them; in the end no value is left. Two
    percent signs are one that stands for itself. -/
def fill (view : View) (bytes : Bool) :
    (fuel : Nat) → Arguments → List Char → Except Stop (List Char)
  | 0, _, _ => fail .content
  | fuel + 1, args, cs =>
    let literal := cs.takeWhile (· ≠ '%')
    match cs.dropWhile (· ≠ '%') with
    | [] => if args.pending.isEmpty || args.keyed.isSome then pure literal else fail .type
    | _ :: '%' :: cs => do
      let rest ← fill view bytes fuel args cs
      pure (literal ++ '%' :: rest)
    | _ :: cs => do
      let (body, args, cs) ← readDirective view bytes args cs
      let rest ← fill view bytes fuel args cs
      pure (literal ++ body ++ rest)

/-- Whether a value is a text or a byte string with directives. -/
def isTemplate : Value → Bool
  | .text _ | .code .. | .bytes .. => true
  | _ => false

/-- A text or byte string with values put into it. -/
def apply (view : View) (v arguments : Value) : Except Stop Value :=
  match v with
  | .bytes _ bs => do
    let cs ← fill view true (bs.length + 1) (.of true arguments) (charsOfBytes bs)
    pure (.bytes none (bytesOfChars cs))
  | v => match v.text? with
    | some s => do
      let cs ← fill view false (s.length + 1) (.of false arguments) s.toList
      pure (.text (String.ofList cs))
    | none => fail .type

/-- Values as they are, of which none is a reference. -/
def direct : View where
  target := .ok
  shown := Value.shown
  plain := Value.plain

/-- A text or byte string with values put into it that are no references. -/
def applyDirect (v arguments : Value) : Except Misuse Value :=
  match apply direct v arguments with
  | .ok r => .ok r
  | .error (.misuse m) => .error m
  | .error (.unloaded _) => .error .type

end LinkedDocs.Value.Formatting
