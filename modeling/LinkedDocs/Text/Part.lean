import LinkedDocs.Text.Blank

/-! Parts of a text: where one occurs, and what lies between its occurrences.

    A part is looked for from the left, and the search goes on behind an occurrence, so occurrences
    do not overlap. Searches from the right are searches of the mirrored text for the mirrored
    part. -/

namespace LinkedDocs.Text

/-- The place of the first occurrence of a part. -/
def place? (part : List Char) : List Char → Option Nat
  | [] => if part.isEmpty then some 0 else none
  | c :: cs => if part.isPrefixOf (c :: cs) then some 0 else (place? part cs).map (· + 1)

/-- The place of the last occurrence of a part. -/
def lastPlace? (part whole : List Char) : Option Nat :=
  (place? part.reverse whole.reverse).map fun i => whole.length - part.length - i

/-- The text before the first occurrence of a part, and the text behind it. -/
def cut? (part whole : List Char) : Option (List Char × List Char) :=
  (place? part whole).map fun i => (whole.take i, whole.drop (i + part.length))

/-- The pieces between the occurrences of a part, cutting `count` times at most. -/
def splitAt (part : List Char) : (count : Nat) → List Char → List (List Char)
  | 0, cs => [cs]
  | count + 1, cs =>
    match cut? part cs with
    | some (piece, rest) => piece :: splitAt part count rest
    | none => [cs]

/-- The same, cutting from the right. -/
def splitAtLast (part : List Char) (count : Nat) (cs : List Char) : List (List Char) :=
  (splitAt part.reverse count cs.reverse).reverse.map List.reverse

/-- The words between blanks, `count` cuts at most; what is left then keeps the blanks in it. -/
def words : (count : Nat) → List Char → List (List Char)
  | 0, cs => if (trimLeft cs).isEmpty then [] else [trimLeft cs]
  | count + 1, cs =>
    if (trimLeft cs).isEmpty then []
    else
      let word := (trimLeft cs).takeWhile fun c => !isBlank c
      word :: words count ((trimLeft cs).drop word.length)

/-- The same, cutting from the right. -/
def lastWords (count : Nat) (cs : List Char) : List (List Char) :=
  (words count cs.reverse).reverse.map List.reverse

/-- How often a part occurs; the empty one occurs around every character. -/
def occurrences (part whole : List Char) : Nat :=
  if part.isEmpty then whole.length + 1 else (splitAt part whole.length whole).length - 1

/-- The first `count` occurrences of a part replaced. -/
def replace (part other : List Char) (count : Nat) (whole : List Char) : List Char :=
  if part.isEmpty then
    (whole.take (count - 1)).foldl (fun acc c => acc ++ c :: other)
      (if count = 0 then [] else other) ++ whole.drop (count - 1)
  else other.intercalate (splitAt part count whole)

/-- The characters that end a line. -/
def lineEnds : List Nat := [0xa, 0xb, 0xc, 0xd, 0x1c, 0x1d, 0x1e, 0x85, 0x2028, 0x2029]

def isLineEnd (c : Char) : Bool := c.toNat ∈ lineEnds

/-- The lines of a text without or with their ends; `line` is the line so far, backwards. A carriage
    return and a line feed end one line together. -/
def linesFrom (keep : Bool) (line : List Char) : List Char → List (List Char)
  | [] => if line.isEmpty then [] else [line.reverse]
  | '\r' :: '\n' :: cs =>
    (line.reverse ++ if keep then ['\r', '\n'] else []) :: linesFrom keep [] cs
  | c :: cs =>
    if isLineEnd c then (line.reverse ++ if keep then [c] else []) :: linesFrom keep [] cs
    else linesFrom keep (c :: line) cs

def lines (keep : Bool) (cs : List Char) : List (List Char) := linesFrom keep [] cs

example : splitAt [','] 5 ['a', ',', ',', 'b'] = [['a'], [], ['b']] := by decide
example : replace [] ['-'] 2 ['a', 'b'] = ['-', 'a', '-', 'b'] := by decide

end LinkedDocs.Text
