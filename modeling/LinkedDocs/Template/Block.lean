import LinkedDocs.Scan.Lexemes

/-! Expression blocks.

    A block is opened by a hash and a brace, with a mark before it or not, and closed by the first
    brace at which the braces outside its quoted strings balance. So a block may hold documents and
    strings with braces of its own. A quote that starts no string is an ordinary character. -/

namespace LinkedDocs.Template.Block

open Scan

/-- Distance to the closing brace; `pending` characters are passed over first, and `depth` braces of
    the block's own are open. -/
def closing : (pending depth : Nat) → List Char → Option Nat
  | _, _, [] => none
  | pending + 1, depth, _ :: cs => (closing pending depth cs).map (· + 1)
  | 0, depth, c :: cs =>
    match stringLength? (c :: cs) with
    | some n => (closing (n - 1) depth cs).map (· + 1)
    | none =>
      if c = '{' then (closing 0 (depth + 1) cs).map (· + 1)
      else if c = '}' then
        match depth with
        | 0 => some 0
        | depth + 1 => (closing 0 depth cs).map (· + 1)
      else (closing 0 depth cs).map (· + 1)

/-- The source of a block and its whole length, given the text from its opener on. -/
def body? (openerLength : Nat) (cs : List Char) : Option (List Char × Nat) :=
  let rest := cs.drop openerLength
  (closing 0 0 rest).map fun n => (rest.take n, openerLength + n + 1)

/-- Length of an opener that has a mark. -/
def markedOpener? : List Char → Option Nat
  | c :: '#' :: '{' :: _ => if c = '?' ∨ c = ':' then some 3 else none
  | _ => none

/-- Length of an opener without a mark. -/
def bareOpener? : List Char → Option Nat
  | '#' :: '{' :: _ => some 2
  | _ => none

example : closing 0 0 "'\x7d' \x7b\x7d \x7d x".toList = some 7 := by decide +kernel

end LinkedDocs.Template.Block
