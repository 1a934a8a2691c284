import LinkedDocs.Value.Attribute
import LinkedDocs.Value.FieldSpec

/-! Texts with fields.

    A field stands between braces: which value goes there, by number or by name and on through
    attributes and items, how it is converted, and how it fills the field. Fields without a number
    are numbered in turn. The specification of a field may have fields of its own. Two braces in a
    row are one that stands for itself. -/

namespace LinkedDocs.Value.FieldText

/-- Where values come from. -/
structure Sources where
  /-- The numbered values, if fields may have numbers. -/
  numbered : Option (List Value)
  /-- Where values are looked up by name. -/
  named : Option Value

/-- How the fields of a text are numbered; the two ways do not go together. -/
inductive Numbering where
  | open
  | inTurn (next : Nat)
  | explicit
  deriving DecidableEq, Repr

/-- A field as it is written. -/
structure Field where
  name : List Char
  conversion : Option Char
  spec : List Char
  deriving DecidableEq, Repr

def openBrace : Char := '\x7b'

def closeBrace : Char := '\x7d'

/-- The name of a field, the character that ends it, and what follows. A bracket hides what is in
    it. -/
def takeName (inBracket : Bool) : List Char → Except Misuse (List Char × Char × List Char)
  | [] => .error .content
  | c :: cs => do
    if inBracket then
      let (name, stop, rest) ← takeName (c ≠ ']') cs
      pure (c :: name, stop, rest)
    else if c = openBrace then .error .content
    else if c = closeBrace ∨ c = ':' ∨ c = '!' then pure ([], c, cs)
    else
      let (name, stop, rest) ← takeName (c = '[') cs
      pure (c :: name, stop, rest)

/-- A specification up to the brace that closes the field, with `depth` braces open in it. -/
def takeSpec (depth : Nat) : List Char → Except Misuse (List Char × List Char)
  | [] => .error .content
  | c :: cs => do
    if c = closeBrace ∧ depth = 0 then pure ([], cs)
    else
      let depth := if c = openBrace then depth + 1 else if c = closeBrace then depth - 1 else depth
      let (spec, rest) ← takeSpec depth cs
      pure (c :: spec, rest)

/-- A field behind its opening brace, and what follows. -/
def takeField (cs : List Char) : Except Misuse (Field × List Char) := do
  let (name, stop, cs) ← takeName false cs
  if stop = closeBrace then pure (⟨name, none, []⟩, cs)
  else if stop = ':' then
    let (spec, cs) ← takeSpec 0 cs
    pure (⟨name, none, spec⟩, cs)
  else
    match cs with
    | [] => .error .content
    | conversion :: cs =>
      match cs with
      | [] => .error .content
      | c :: cs =>
        if c = closeBrace then pure (⟨name, some conversion, []⟩, cs)
        else if c = ':' then
          let (spec, cs) ← takeSpec 0 cs
          pure (⟨name, some conversion, spec⟩, cs)
        else .error .content

/-! ### The value of a field -/

/-- The number a name spells, if it is one. -/
def number? (name : List Char) : Except Misuse (Option Nat) :=
  if name.isEmpty ∨ !name.all Text.isDigit then .ok none
  else if Text.digitsValue name ≤ FieldSpec.greatest then .ok (some (Text.digitsValue name))
  else .error .content

/-- Whether a name goes on here with an attribute or an item. -/
def isStep (c : Char) : Bool := c = '.' || c = '['

/-- The number of a field, after those before it; none if it has a name. -/
def numberOf (numbering : Numbering) (first : List Char) :
    Except Misuse (Option Nat × Numbering) := do
  if first.isEmpty then
    match numbering with
    | .open => pure (some 0, .inTurn 1)
    | .inTurn n => pure (some n, .inTurn (n + 1))
    | .explicit => .error .content
  else
    match ← number? first with
    | none => pure (none, numbering)
    | some n =>
      match numbering with
      | .inTurn _ => .error .content
      | _ => pure (some n, .explicit)

/-- The value that a field starts from. -/
def start (s : Sources) (number : Option Nat) (name : List Char) : Except Misuse Value :=
  match number with
  | some n =>
    match s.numbered with
    | none => .error .content
    | some vs => match vs[n]? with
      | some v => .ok v
      | none => .error .index
  | none =>
    match s.named with
    | some v => v.getItem (.text (String.ofList name))
    | none => .error .key

/-- Follows attributes and items, `fuel` of them. -/
def follow : (fuel : Nat) → Value → List Char → Except Misuse Value
  | _, v, [] => .ok v
  | fuel + 1, v, '.' :: cs =>
    let name := cs.takeWhile fun c => !isStep c
    if name.isEmpty then .error .content
    else
      match v.attribute? (String.ofList name) with
      | some w => follow fuel w (cs.dropWhile fun c => !isStep c)
      | none => .error .attribute
  | fuel + 1, v, '[' :: cs => do
    let name := cs.takeWhile (· ≠ ']')
    match cs.dropWhile (· ≠ ']') with
    | [] => .error .content
    | _ :: rest =>
      let number ← number? name
      if name.isEmpty then .error .content
      else
        let key : Value := match number with
          | some n => .int n
          | none => .text (String.ofList name)
        let w ← v.getItem key
        follow fuel w rest
  | _, _, _ => .error .content

/-- The text of a value after a conversion. -/
def converted (v : Value) : Option Char → Except Misuse Value
  | none => .ok v
  | some 's' => v.written.map .text
  | some 'r' => if v.isShowable then .ok (.text v.shown) else .error .content
  | some 'a' =>
    if v.isShowable then .ok (.text (String.ofList (Formatting.asciiOnly v.shown)))
    else .error .content
  | some _ => .error .content

/-! ### The text -/

/-- Fills a field; `fillSpec` fills the fields of its specification. -/
def fillField (fillSpec : Numbering → List Char → Except Misuse (List Char × Numbering))
    (s : Sources) (numbering : Numbering) (f : Field) : Except Misuse (List Char × Numbering) := do
  let first := f.name.takeWhile fun c => !isStep c
  let (number, numbering) ← numberOf numbering first
  let v ← start s number first
  let v ← follow f.name.length v (f.name.dropWhile fun c => !isStep c)
  let v ← converted v f.conversion
  let (spec, numbering) ←
    if f.spec.contains openBrace then fillSpec numbering f.spec else .ok (f.spec, numbering)
  let body ← v.fieldText spec
  pure (body, numbering)

/-- Fills the fields of a text, `fuel` pieces of it. -/
def fillFrom (fillSpec : Numbering → List Char → Except Misuse (List Char × Numbering))
    (s : Sources) : (fuel : Nat) → Numbering → List Char → Except Misuse (List Char × Numbering)
  | 0, _, _ => .error .content
  | fuel + 1, numbering, cs => do
    let isPlain (c : Char) : Bool := c ≠ openBrace && c ≠ closeBrace
    let literal := cs.takeWhile isPlain
    match cs.dropWhile isPlain with
    | [] => pure (literal, numbering)
    | [_] => .error .content
    | c :: d :: cs =>
      if c = d then
        let (rest, numbering) ← fillFrom fillSpec s fuel numbering cs
        pure (literal ++ c :: rest, numbering)
      else if c = closeBrace then .error .content
      else
        let (f, cs) ← takeField (d :: cs)
        let (body, numbering) ← fillField fillSpec s numbering f
        let (rest, numbering) ← fillFrom fillSpec s fuel numbering cs
        pure (literal ++ body ++ rest, numbering)

/-- Fills the fields of a text whose specifications are nested less than `depth` deep. -/
def fill (s : Sources) : (depth : Nat) → Numbering → List Char →
    Except Misuse (List Char × Numbering)
  | 0, _, _ => .error .content
  | depth + 1, numbering, cs => fillFrom (fill s depth) s (cs.length + 1) numbering cs

/-- The text with its fields filled; specifications may have fields, but not fields with fields. -/
def apply (s : Sources) (cs : List Char) : Except Misuse Value := do
  let (cs, _) ← fill s 2 .open cs
  pure (.text (String.ofList cs))

end LinkedDocs.Value.FieldText
