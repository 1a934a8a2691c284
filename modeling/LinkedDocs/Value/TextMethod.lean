import LinkedDocs.Text.Kind
import LinkedDocs.Text.Part
import LinkedDocs.Value.Container

/-! Methods of texts.

    A text never changes, so a method only gives a result. Positions may be left out or null; they
    are counted from the end if negative, and those out of range stand for an end. -/

namespace LinkedDocs.Value.TextMethod

/-- A text argument. -/
def textOf (v : Value) : Except Misuse (List Char) :=
  match v.text? with
  | some s => .ok s.toList
  | none => .error .type

def ofChars (cs : List Char) : Value := .text (String.ofList cs)

/-- A position that is not beyond either end. -/
def clamp (size : Nat) (i : Int) : Nat := min (if i < 0 then i + size else i).toNat size

/-- An optional position. -/
def positionOr (size default : Nat) (v : Value) : Except Misuse Nat :=
  match v with
  | .null => .ok default
  | v => (v.toIndex).map (clamp size)

/-- The stretch of a text that a search is confined to: its start, and its characters. There is none
    if it would start behind its end. -/
def stretch (cs : List Char) (positions : List Value) :
    Except Misuse (Option (Nat × List Char)) := do
  let size := cs.length
  let isBeyond (v : Value) : Bool := match v.int? with
    | some n => size < n
    | none => false
  let (start, stop, beyond) ← match positions with
    | [] => .ok (0, size, false)
    | [i] => do
      let start ← positionOr size 0 i
      pure (start, size, isBeyond i)
    | [i, j] => do
      let start ← positionOr size 0 i
      let stop ← positionOr size size j
      pure (start, stop, isBeyond i)
    | _ => .error .type
  pure (if beyond || stop < start then none else some (start, (cs.take stop).drop start))

/-- Where a part occurs in a stretch, by the given search. -/
def find (search : List Char → List Char → Option Nat) (cs : List Char) (part : Value)
    (positions : List Value) : Except Misuse (Option Nat) := do
  let part ← textOf part
  let area ← stretch cs positions
  pure (area.bind fun a => (search part a.2).map (· + a.1))

/-- Whether a stretch has one of some parts at an end. -/
def hasEnd (isEnd : List Char → List Char → Bool) (cs : List Char) (part : Value)
    (positions : List Value) : Except Misuse Bool := do
  let parts ← match part with
    | .tuple ps => ps.mapM textOf
    | p => (textOf p).map ([·])
  let area ← stretch cs positions
  pure (match area with
    | some a => parts.any fun p => isEnd p a.2
    | none => false)

/-- The greatest number of cuts; a negative one sets no limit. -/
def limitOf (cs : List Char) (v : Value) : Except Misuse Nat :=
  v.toIndex.map fun n => if n < 0 then cs.length + 1 else n.toNat

/-- A part that is not empty. -/
def separator (v : Value) : Except Misuse (List Char) := do
  let part ← textOf v
  if part.isEmpty then .error .content else pure part

/-- The pieces of a text, cut at blanks or at a separator. -/
def split (byBlanks : Nat → List Char → List (List Char))
    (bySeparator : List Char → Nat → List Char → List (List Char)) (cs : List Char)
    (args : List Value) : Except Misuse Value := do
  let limit ← match args with
    | [_, n] => limitOf cs n
    | _ => .ok (cs.length + 1)
  let pieces ← match args with
    | [] | [.null] | [.null, _] => .ok (byBlanks limit cs)
    | [part] | [part, _] => do
      let part ← separator part
      pure (bySeparator part limit cs)
    | _ => .error .type
  pure (.list (pieces.map ofChars))

/-- A field of the given width: so many characters on the left and on the right. -/
def inField (sides : Nat → Nat × Nat) (cs : List Char) (args : List Value) :
    Except Misuse Value := do
  let filler ← match args with
    | [_] => .ok ' '
    | [_, f] => do
      match ← textOf f with
      | [c] => pure c
      | _ => .error .type
    | _ => .error .type
  let width ← ((args.head?).getD .null).toIndex
  let (left, right) := sides (width.toNat - cs.length)
  pure (ofChars (List.replicate left filler ++ cs ++ List.replicate right filler))

/-- The outer characters of a set removed; without a set the blanks. -/
def stripped (left right : Bool) (cs : List Char) (args : List Value) : Except Misuse Value := do
  let outer ← match args with
    | [] | [.null] => .ok Text.isBlank
    | [v] => (textOf v).map fun outer c => outer.contains c
    | _ => .error .type
  let cs := if left then cs.dropWhile outer else cs
  let cs := if right then (cs.reverse.dropWhile outer).reverse else cs
  pure (ofChars cs)

/-- Characters that do not end a word as far as its case is concerned. -/
def isIgnored (c : Char) : Bool :=
  c ∈ ['\'', '.', ':', '^', '`', '·', '’'] || (0x300 ≤ c.toNat && c.toNat ≤ 0x36f)

/-- Whether the next character that counts is a letter with a case. -/
def meetsLetter (cs : List Char) : Bool := ((cs.dropWhile isIgnored).head?).any Text.hasCase

/-- A letter in lower case, between what stands before it, backwards, and behind it. A sigma that
    ends a word has a form of its own. -/
def lowered (before : List Char) (c : Char) (after : List Char) : List Char :=
  if c = 'Σ' then [if meetsLetter before && !meetsLetter after then 'ς' else 'σ']
  else Text.lowerFull c

/-- Which letters of a text are written as capitals. -/
inductive Capitals where
  | none
  | first
  | ofWords
  deriving DecidableEq, Repr

/-- Whether the letter behind `before` is written as a capital. -/
def Capitals.takes (capitals : Capitals) (before : List Char) : Bool :=
  match capitals with
  | .none => false
  | .first => before.isEmpty
  | .ofWords => !((before.head?).any Text.hasCase)

/-- The text in lower case but for some capitals. -/
def recased (capitals : Capitals) (before : List Char) : List Char → List Char
  | [] => []
  | c :: cs =>
    (if capitals.takes before then Text.capital c else lowered before c cs) ++
      recased capitals (c :: before) cs

/-- The text with capitals and small letters exchanged. -/
def swapped (before : List Char) : List Char → List Char
  | [] => []
  | c :: cs =>
    (if Text.isUpper c then lowered before c cs
      else if Text.isLower c then Text.upper c
      else [c]) ++ swapped (c :: before) cs

/-- Whether there is a letter of one kind, and none of the kinds that rule it out. -/
def isAllCase (kind other : Char → Bool) (cs : List Char) : Bool :=
  cs.any kind && !cs.any fun c => other c || Text.isTitleForm c

/-- Whether capitals are exactly where words begin; `inside` says whether a letter precedes. -/
def isTitled (inside : Bool) : List Char → Bool
  | [] => true
  | c :: cs =>
    if Text.isUpper c || Text.isTitleForm c then !inside && isTitled true cs
    else if Text.isLower c then inside && isTitled true cs
    else isTitled false cs

/-- The text with blanks up to the next multiple of `size` in the place of a tabulator; `column`
    characters precede on the line. -/
def expanded (size : Int) (column : Nat) : List Char → List Char
  | [] => []
  | '\t' :: cs =>
    let n := if 0 < size then size.toNat - column % size.toNat else 0
    List.replicate n ' ' ++ expanded size (column + n) cs
  | c :: cs => c :: expanded size (if c = '\n' ∨ c = '\r' then 0 else column + 1) cs

/-- What a table puts in the place of a character; one that is not in the table stays. -/
def translated (table : Value) (c : Char) : Except Misuse (List Char) :=
  match table.getItem (.int c.toNat) with
  | .error .key | .error .index => .ok [c]
  | .error m => .error m
  | .ok .null => .ok []
  | .ok v =>
    match v.text?, v.int? with
    | some s, _ => .ok s.toList
    | none, some n => if 0 ≤ n ∧ n < 0x110000 then .ok [Char.ofNat n.toNat] else .error .content
    | none, none => .error .type

/-- The text with each character replaced by a table. -/
def translate (table : Value) (cs : List Char) : Except Misuse Value := do
  let parts ← cs.mapM (translated table)
  pure (ofChars parts.flatten)

/-- The table that puts the characters of one text in the place of those of another, and removes
    those of a third. -/
def tableOf (old new removed : List Char) : Except Misuse Value :=
  let code (c : Char) : Value := .int c.toNat
  if old.length ≠ new.length then .error .content
  else
    .ok (.map (Entries.ofList
      ((old.zip new).map (fun p => (code p.1, code p.2)) ++ removed.map fun c => (code c, .null))))

/-- The table that a mapping from characters or their codes stands for. -/
def tableOfEntries (es : Entries) : Except Misuse Value := do
  let es ← es.mapM fun e => match e.1.text? with
    | some s => match s.toList with
      | [c] => .ok (.int c.toNat, e.2)
      | _ => .error .content
    | none => if e.1.int?.isSome then .ok e else .error .type
  pure (.map (Entries.ofList es))

/-- Texts joined with `cs` between them. -/
def joined (cs : List Char) (v : Value) : Except Misuse Value := do
  let items ← v.items
  let parts ← items.mapM textOf
  pure (ofChars (cs.intercalate parts))

/-- Whether a text has characters, all of a kind. -/
def allOf (kind : Char → Bool) (cs : List Char) : Value := .bool (!cs.isEmpty && cs.all kind)

/-- The text with zeros between its sign and its digits. -/
def zeroFilled (cs : List Char) (width : Int) : List Char :=
  let zeros := List.replicate (width.toNat - cs.length) '0'
  match cs with
  | '+' :: ds => '+' :: (zeros ++ ds)
  | '-' :: ds => '-' :: (zeros ++ ds)
  | cs => zeros ++ cs

/-- The three parts at an occurrence, or none. -/
def partition (search : List Char → List Char → Option Nat) (missing : List Char → List Value)
    (cs : List Char) (part : Value) : Except Misuse Value := do
  let part ← separator part
  pure (.tuple (match search part cs with
    | some i => [ofChars (cs.take i), ofChars part, ofChars (cs.drop (i + part.length))]
    | none => missing cs))

/-- The place of a part, which has to be there. -/
def indexOf (found : Except Misuse (Option Nat)) : Except Misuse Value := do
  match ← found with
  | some i => pure (.int i)
  | none => .error .content

/-- The place of a part, minus one if it is not there. -/
def findOr (found : Except Misuse (Option Nat)) : Except Misuse Value :=
  found.map fun r => .int ((r.map Int.ofNat).getD (-1))

/-- The methods of a text. -/
def call (cs : List Char) (name : String) (args : List Value) : Except Misuse Value :=
  match name, args with
  | "upper", [] => .ok (ofChars (cs.flatMap Text.upper))
  | "lower", [] => .ok (ofChars (recased .none [] cs))
  | "title", [] => .ok (ofChars (recased .ofWords [] cs))
  | "capitalize", [] => .ok (ofChars (recased .first [] cs))
  | "swapcase", [] => .ok (ofChars (swapped [] cs))
  | "casefold", [] => .ok (ofChars (cs.flatMap Text.folded))
  | "expandtabs", [] => .ok (ofChars (expanded 8 0 cs))
  | "expandtabs", [n] => n.toIndex.map fun n => ofChars (expanded n 0 cs)
  | "translate", [table] => translate table cs
  | "maketrans", [v] =>
    match v.entries? with
    | some es => tableOfEntries es
    | none => .error .type
  | "maketrans", old :: new :: removed => do
    let old ← textOf old
    let new ← textOf new
    let removed ← match removed with
      | [] => .ok []
      | [v] => textOf v
      | _ => .error .type
    tableOf old new removed
  | "strip", args => stripped true true cs args
  | "lstrip", args => stripped true false cs args
  | "rstrip", args => stripped false true cs args
  | "split", args => split Text.words Text.splitAt cs args
  | "rsplit", args => split Text.lastWords Text.splitAtLast cs args
  | "splitlines", [] => .ok (.list ((Text.lines false cs).map ofChars))
  | "splitlines", [keep] => keep.toIndex.map fun n => .list ((Text.lines (n != 0) cs).map ofChars)
  | "join", [v] => joined cs v
  | "replace", [old, new] => do
    let old ← textOf old
    let new ← textOf new
    pure (ofChars (Text.replace old new (cs.length + 1) cs))
  | "replace", [old, new, count] => do
    let old ← textOf old
    let new ← textOf new
    let count ← limitOf cs count
    pure (ofChars (Text.replace old new count cs))
  | "startswith", p :: ps => (hasEnd List.isPrefixOf cs p ps).map .bool
  | "endswith", p :: ps => (hasEnd List.isSuffixOf cs p ps).map .bool
  | "find", p :: ps => findOr (find Text.place? cs p ps)
  | "rfind", p :: ps => findOr (find Text.lastPlace? cs p ps)
  | "index", p :: ps => indexOf (find Text.place? cs p ps)
  | "rindex", p :: ps => indexOf (find Text.lastPlace? cs p ps)
  | "count", p :: ps => do
    let part ← textOf p
    let area ← stretch cs ps
    pure (.int ((area.map fun a => Text.occurrences part a.2).getD 0))
  | "partition", [p] => partition Text.place? (fun cs => [ofChars cs, .text "", .text ""]) cs p
  | "rpartition", [p] =>
    partition Text.lastPlace? (fun cs => [.text "", .text "", ofChars cs]) cs p
  | "removeprefix", [p] => do
    let p ← textOf p
    pure (ofChars (if p.isPrefixOf cs then cs.drop p.length else cs))
  | "removesuffix", [p] => do
    let p ← textOf p
    pure (ofChars (if p.isSuffixOf cs then cs.take (cs.length - p.length) else cs))
  | "zfill", [n] => n.toIndex.map fun n => ofChars (zeroFilled cs n)
  | "ljust", args => inField (fun n => (0, n)) cs args
  | "rjust", args => inField (fun n => (n, 0)) cs args
  | "center", args =>
    let odd (n : Nat) : Nat := if n % 2 = 1 ∧ (n + cs.length) % 2 = 1 then 1 else 0
    inField (fun n => (n / 2 + odd n, n - n / 2 - odd n)) cs args
  | "encode", [] => .ok (.bytes none (String.ofList cs).toUTF8.data.toList)
  | "isascii", [] => .ok (.bool (cs.all fun c => c.toNat < 0x80))
  | "isdecimal", [] => .ok (allOf Text.isDigit cs)
  | "isdigit", [] => .ok (allOf Text.isDigitLike cs)
  | "isnumeric", [] => .ok (allOf Text.isNumeric cs)
  | "isalpha", [] => .ok (allOf Text.isAlpha cs)
  | "isupper", [] => .ok (.bool (isAllCase Text.isUpper Text.isLower cs))
  | "islower", [] => .ok (.bool (isAllCase Text.isLower Text.isUpper cs))
  | "istitle", [] => .ok (.bool (cs.any Text.hasCase && isTitled false cs))
  | "isidentifier", [] =>
    let begins (c : Char) : Bool := Text.isAlpha c || c == '_'
    .ok (.bool ((cs.head?).any begins && cs.all fun c => begins c || Text.isDigit c))
  | "isspace", [] => .ok (allOf Text.isBlank cs)
  | "isalnum", [] => .ok (allOf Text.isLetter cs)
  | "isprintable", [] => .ok (.bool (cs.all Text.isPrintable))
  | _, _ => .error .type

end LinkedDocs.Value.TextMethod
