import LinkedDocs.Expr.Token
import LinkedDocs.Template.Block
import LinkedDocs.Template.Tree

/-! Tokens of lookup templates. An expression block is one token, whose value is its source. -/

namespace LinkedDocs.Template

open Scan

inductive Token where
  | expression (source : String)
  | placeholder (index : Nat)
  | integer (n : Int)
  | float (x : Float)
  | string (s : String)
  | word (s : String)
  | keyword (k : Keyword)
  /-- The word that starts an object identifier. -/
  | objectId
  | openBrace
  | closeBrace
  | openBracket
  | closeBracket
  | openParen
  | closeParen
  | colon
  | comma

/-- The escapes of a quoted string that stand for another character. -/
def escapes : List (Char × Char) :=
  [('n', '\n'), ('t', '\t'), ('r', '\r'), ('b', '\x08'), ('f', '\x0c'), ('/', '/')]

/-- The code points of a quoted string with its escapes resolved; `none` if a code point is not
    given by four hex digits. Any other escaped character stands for itself. -/
def codePoints? : List Char → Option (List Nat)
  | [] => some []
  | [c] => some [c.toNat]
  | '\\' :: 'u' :: a :: b :: c :: d :: cs =>
    if [a, b, c, d].all fun x => (Text.hexValue? x).isSome then
      (codePoints? cs).map (Text.hexNumber [a, b, c, d] :: ·)
    else none
  | c :: d :: cs =>
    if c = '\\' then
      if d = 'u' then none
      else (codePoints? cs).map (((escapes.lookup d).getD d).toNat :: ·)
    else (codePoints? (d :: cs)).map (c.toNat :: ·)

def isLeadingHalf (n : Nat) : Bool := 0xd800 ≤ n && n < 0xdc00
def isTrailingHalf (n : Nat) : Bool := 0xdc00 ≤ n && n < 0xe000

/-- The characters of a sequence of code points. A text holds characters, so a leading and a
    trailing half make up one character beyond the basic plane, and half of a character alone, which
    no text can hold, is outside of what is described here. -/
def joinHalves : List Nat → List Char
  | [] => []
  | [n] => [Char.ofNat n]
  | n :: m :: ns =>
    if isLeadingHalf n && isTrailingHalf m then
      Char.ofNat (0x10000 + 0x400 * (n - 0xd800) + (m - 0xdc00)) :: joinHalves ns
    else Char.ofNat n :: joinHalves (m :: ns)

/-- Resolves the escapes of a quoted string. -/
def unescape? (cs : List Char) : Option (List Char) := (codePoints? cs).map joinHalves

/-- Resolves the escapes of a string that stands in `source`. -/
def unescape (content source : String) : Except Failure String :=
  match unescape? content.toList with
  | some cs => .ok (String.ofList cs)
  | none => .error (.expression (.invalidUnicodeEscape source))

namespace Token

/-- The name of the token's class. -/
def kind : Token → String
  | .expression _ => "EXPRESSION"
  | .placeholder _ => "PLACEHOLDER"
  | .integer _ | .float _ => "NUMBER"
  | .string _ => "STRING"
  | .word _ => "WORD"
  | .keyword .yes => "TRUE"
  | .keyword .no => "FALSE"
  | .keyword .nothing => "NULL"
  | .objectId => "OBJECT_ID"
  | .openBrace => "LBRACE"
  | .closeBrace => "RBRACE"
  | .openBracket => "LBRACKET"
  | .closeBracket => "RBRACKET"
  | .openParen => "LPAREN"
  | .closeParen => "RPAREN"
  | .colon => "COLON"
  | .comma => "COMMA"

def objectIdWord : String := "ObjectId"

/-- What the token stands for. -/
def value : Token → Value
  | .expression s | .string s | .word s => .text s
  | .placeholder n => .int n
  | .integer n => .int n
  | .float x => .float x
  | .keyword k => .text k.word
  | .objectId => .text objectIdWord
  | .openBrace => .text "\x7b"
  | .closeBrace => .text "\x7d"
  | .openBracket => .text "["
  | .closeBracket => .text "]"
  | .openParen => .text "("
  | .closeParen => .text ")"
  | .colon => .text ":"
  | .comma => .text ","

def shown (t : Token) : String := t.value.shown

def ofWord (s : String) : Token :=
  match Keyword.ofWord? s with
  | some k => .keyword k
  | none => if s = objectIdWord then .objectId else .word s

/-- The token of a single character. -/
def ofMark? (c : Char) : Option Token :=
  match c with
  | '{' => some .openBrace
  | '}' => some .closeBrace
  | '[' => some .openBracket
  | ']' => some .closeBracket
  | '(' => some .openParen
  | ')' => some .closeParen
  | ':' => some .colon
  | ',' => some .comma
  | _ => none

def isWordChar (c : Char) : Bool :=
  isLetter c || c.isDigit || c == '$' || c == '.' || c == '-'

def placeholder? (cs : List Char) : Option (Token × Nat) :=
  (placeholderLength? cs).map fun n => (.placeholder (Text.digitsValue ((cs.take n).drop 1)), n)

/-- An integer, or a float if a fraction or an exponent follows. -/
def number? (cs : List Char) : Option (Token × Nat) :=
  match integerLength? cs with
  | none => none
  | some n =>
    let fraction := (fractionLength? (cs.drop n)).getD 0
    let exponent := (exponentLength? (cs.drop (n + fraction))).getD 0
    let length := n + fraction + exponent
    if fraction + exponent = 0 then some (.integer (Text.integerValue (cs.take n)), n)
    else
      let (negative, ds) := Number.takeSign (cs.take length)
      some (.float ((Number.readDecimal? negative ds).getD 0.0), length)

def word? (cs : List Char) : Option (Token × Nat) :=
  match cs with
  | c :: rest =>
    if Expr.Token.isNameStart c then
      let n := runLength isWordChar rest
      some (ofWord (String.ofList (c :: rest.take n)), n + 1)
    else none
  | [] => none

def mark? : List Char → Option (Token × Nat)
  | c :: _ => (ofMark? c).map fun t => (t, 1)
  | [] => none

/-- The block or string at the start of a text. These are the lexemes that can be wrong. -/
def delimited? (source : String) (cs : List Char) : Option (Lexeme Token) :=
  match Block.markedOpener? cs with
  | some n => match Block.body? n cs with
    | some (body, length) => some (.token (.expression (String.ofList body)) length)
    | none => some .openBlock
  | none => (stringLength? cs).map fun n =>
    match unescape (String.ofList (Expr.Token.unquoted (cs.take n))) source with
    | .ok s => .token (.string s) n
    | .error f => .failure f

/-- Any other token at the start of a text, and its length. -/
def simple? (cs : List Char) : Option (Token × Nat) :=
  placeholder? cs <|> number? cs <|> word? cs <|> mark? cs

/-- Whether the token stands for an integer in digits. -/
def isNumeral : Token → Bool
  | .placeholder _ | .integer _ => true
  | _ => false

/-- The scanning rule of templates. -/
def rule (source : String) (position : Nat) : List Char → Lexeme Token
  | [] => .skip
  | c :: cs =>
    if isGap c then .skip
    else match delimited? source (c :: cs) with
      | some l => l
      | none => match simple? (c :: cs) with
        | some (t, n) => .of t.isNumeral ((c :: cs).take n) t n
        | none => .failure (.expression (.illegalCharacter .template c position source))

/-- The tokens of a text. -/
def scan (source : String) : Scan Token := scanFrom (rule source) 0 0 source.toList

/-- The tokens of a text, if it is made of tokens. -/
def tokens (source : String) : Except Failure (List (Placed Token)) := (scan source).result source

end Token

end LinkedDocs.Template
