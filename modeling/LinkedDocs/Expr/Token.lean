import LinkedDocs.Scan.Basic
import LinkedDocs.Scan.Lexemes
import LinkedDocs.Number.Reading
import LinkedDocs.Value.Shown

/-! Tokens of the expression language. -/

namespace LinkedDocs

/-- Words that are literals. -/
inductive Keyword where
  | yes | no | nothing
  deriving DecidableEq, Repr

namespace Keyword

def word : Keyword → String
  | .yes => "true"
  | .no => "false"
  | .nothing => "null"

def ofWord? (s : String) : Option Keyword :=
  if s = "true" then some .yes
  else if s = "false" then some .no
  else if s = "null" then some .nothing
  else none

def value : Keyword → Value
  | .yes => .bool true
  | .no => .bool false
  | .nothing => .null

theorem ofWord?_word (k : Keyword) : ofWord? k.word = some k := by cases k <;> decide

theorem word_of_ofWord? {s : String} {k : Keyword} (h : ofWord? s = some k) : k.word = s := by
  unfold ofWord? at h
  split at h
  · cases h
    exact Eq.symm ‹_›
  · split at h
    · cases h
      exact Eq.symm ‹_›
    · split at h <;> cases h
      exact Eq.symm ‹_›

end Keyword

namespace Expr

inductive Token where
  | variable (name : String)
  | name (name : String)
  | keyword (k : Keyword)
  | float (x : Float)
  | integer (n : Int)
  | string (s : String)
  | dot
  | plus
  | openBracket
  | closeBracket
  | openParen
  | closeParen

namespace Token

open Scan

/-- The name of the token's class. -/
def kind : Token → String
  | .variable _ => "VARIABLE"
  | .name _ => "NAME"
  | .keyword .yes => "TRUE"
  | .keyword .no => "FALSE"
  | .keyword .nothing => "NULL"
  | .float _ => "FLOAT"
  | .integer _ => "INTEGER"
  | .string _ => "STRING"
  | .dot => "DOT"
  | .plus => "PLUS"
  | .openBracket => "LBRACKET"
  | .closeBracket => "RBRACKET"
  | .openParen => "LPAREN"
  | .closeParen => "RPAREN"

/-- What the token stands for. -/
def value : Token → Value
  | .variable n | .name n | .string n => .text n
  | .keyword k => .text k.word
  | .float x => .float x
  | .integer n => .int n
  | .dot => .text "."
  | .plus => .text "+"
  | .openBracket => .text "["
  | .closeBracket => .text "]"
  | .openParen => .text "("
  | .closeParen => .text ")"

def shown (t : Token) : String := t.value.shown

/-- A word: a reserved one or a name. -/
def ofWord (s : String) : Token :=
  match Keyword.ofWord? s with
  | some k => .keyword k
  | none => .name s

/-- The token of a single character. -/
def ofMark? (c : Char) : Option Token :=
  match c with
  | '.' => some .dot
  | '+' => some .plus
  | '[' => some .openBracket
  | ']' => some .closeBracket
  | '(' => some .openParen
  | ')' => some .closeParen
  | _ => none

/-- Takes the backslash from every escaped character. -/
def stripEscapes : List Char → List Char
  | [] => []
  | [c] => [c]
  | c :: d :: cs =>
    if c = '\\' ∧ d ≠ '\n' then d :: stripEscapes cs else c :: stripEscapes (d :: cs)

/-- The text between the quotes of a string lexeme. -/
def unquoted (lexeme : List Char) : List Char := (lexeme.drop 1).dropLast

def isNameStart (c : Char) : Bool := isLetter c || c == '$'
def isNameChar (c : Char) : Bool := isLetter c || c.isDigit || c == '$'
def isVariableChar (c : Char) : Bool := isLetter c || c.isDigit

/-- A hash and a name. -/
def hashName? : List Char → Option (Token × Nat)
  | '#' :: c :: cs =>
    if isLetter c then
      let n := runLength isVariableChar cs
      some (.variable (String.ofList (c :: cs.take n)), n + 2)
    else none
  | _ => none

/-- An integer, or a float if a fraction follows. -/
def number? (cs : List Char) : Option (Token × Nat) :=
  match integerLength? cs with
  | none => none
  | some n =>
    match fractionLength? (cs.drop n) with
    | some m =>
      let (negative, ds) := Number.takeSign (cs.take (n + m))
      some (.float ((Number.readDecimal? negative ds).getD 0.0), n + m)
    | none => some (.integer (Text.integerValue (cs.take n)), n)

def string? (cs : List Char) : Option (Token × Nat) :=
  (stringLength? cs).map fun n =>
    (.string (String.ofList (stripEscapes (unquoted (cs.take n)))), n)

def word? (cs : List Char) : Option (Token × Nat) :=
  match cs with
  | c :: rest =>
    if isNameStart c then
      let n := runLength isNameChar rest
      some (ofWord (String.ofList (c :: rest.take n)), n + 1)
    else none
  | [] => none

def mark? : List Char → Option (Token × Nat)
  | c :: _ => (ofMark? c).map fun t => (t, 1)
  | [] => none

/-- The token at the start of a text that starts with no blank, and its length. -/
def first? (cs : List Char) : Option (Token × Nat) :=
  hashName? cs <|> number? cs <|> string? cs <|> word? cs <|> mark? cs

/-- Whether the token stands for an integer in digits. -/
def isNumeral : Token → Bool
  | .integer _ => true
  | _ => false

/-- The scanning rule of the language. -/
def rule (source : String) (position : Nat) : List Char → Lexeme Token
  | [] => .skip
  | c :: cs =>
    if isGap c then .skip
    else match first? (c :: cs) with
      | some (t, n) => .of t.isNumeral ((c :: cs).take n) t n
      | none => .failure (.expression (.illegalCharacter .expression c position source))

/-- The tokens of a text. -/
def scan (source : String) : Scan Token := scanFrom (rule source) 0 0 source.toList

/-- The tokens of a text, if it is made of tokens. -/
def tokens (source : String) : Except Failure (List (Placed Token)) := (scan source).result source

end Token

end Expr

end LinkedDocs
