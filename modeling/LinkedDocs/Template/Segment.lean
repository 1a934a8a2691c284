import LinkedDocs.Scan.Basic
import LinkedDocs.Template.Block
import LinkedDocs.Value.Basic

/-! Segments of a quoted string or of a plain template.

    A text falls into literal pieces, placeholders and expression blocks. A block with a mark before
    it binds in a template string, a bare one only where a plain template is evaluated. -/

namespace LinkedDocs

inductive Segment where
  | text (s : String)
  | placeholder (index : Nat)
  /-- A block with a question mark or colon before it. -/
  | expression (source : String)
  /-- A block without a mark. -/
  | bare (source : String)
  deriving DecidableEq, Repr

namespace Segment

open Scan Template

def kind : Segment → String
  | .text _ => "TEXT"
  | .placeholder _ => "PLACEHOLDER"
  | .expression _ => "EXPRESSION"
  | .bare _ => "INLINE_EXPRESSION"

def value : Segment → Value
  | .text s | .expression s | .bare s => .text s
  | .placeholder n => .int n

/-- Characters at which a piece of text stops. -/
def isSpecial (c : Char) : Bool := c == '?' || c == ':' || c == '#'

/-- The segment that starts with a block, a placeholder or a piece of text. -/
def rule (_ : Nat) : List Char → Lexeme Segment
  | [] => .skip
  | c :: cs =>
    match Block.markedOpener? (c :: cs), Block.bareOpener? (c :: cs) with
    | some n, _ =>
      match Block.body? n (c :: cs) with
      | some (body, length) => .token (.expression (String.ofList body)) length
      | none => .openBlock
    | none, some n =>
      match Block.body? n (c :: cs) with
      | some (body, length) => .token (.bare (String.ofList body)) length
      | none => .openBlock
    | none, none =>
      match placeholderLength? (c :: cs) with
      | some n => .of true (cs.take (n - 1)) (.placeholder (Text.digitsValue (cs.take (n - 1)))) n
      | none =>
        if isSpecial c then .token (.text c.toString) 1
        else
          let n := runLength (fun c => !isSpecial c) cs
          .token (.text (String.ofList (c :: cs.take n))) (n + 1)

/-- The segments of a text. -/
def split (source : String) : Except Failure (List Segment) :=
  ((scanFrom rule 0 0 source.toList).result source).map fun ts => ts.map (·.token)

end Segment

end LinkedDocs
