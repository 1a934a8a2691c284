import LinkedDocs.Expr.Tree
import LinkedDocs.Expr.Token

/-! Reading expressions.

    The reader is an automaton over tokens. Its state is the part of the tree read so far: the sum
    to the left of the term being read, one such sum for each parenthesis still open, and what the
    term needs next. Addition associates to the left and binds weaker than properties and
    indexes. -/

namespace LinkedDocs.Expr

/-- What may come next. -/
inductive Need where
  | operand
  /-- A bracket was opened where an operand starts. -/
  | parameterIndex
  | parameterClose (index : Int)
  /-- A term is complete and may be extended. -/
  | extension (term : Expr)
  | propertyName (term : Expr)
  | indexKey (term : Expr)
  | indexClose (term : Expr) (key : Key)

structure ReaderState where
  /-- The sums waiting around the open parentheses, innermost first. -/
  outer : List (Option Expr)
  /-- The sum waiting for the term. -/
  sum : Option Expr
  need : Need

/-- The sum with its next term. -/
def plus : Option Expr → Expr → Expr
  | none, t => t
  | some s, t => .add s t

/-- An operand that is a single token. -/
def Token.operand? : Token → Option Expr
  | .integer n => some (.literal (.int n))
  | .float x => some (.literal (.float x))
  | .string s => some (.literal (.text s))
  | .keyword k => some (.literal k.value)
  | .variable n => some (.variable n)
  | .name n => some (.root n)
  | _ => none

namespace ReaderState

def start : ReaderState := ⟨[], none, .operand⟩

/-- Takes one token. -/
def step (s : ReaderState) (t : Token) : Option ReaderState :=
  match s.need, t with
  | .operand, .openParen => some ⟨s.sum :: s.outer, none, .operand⟩
  | .operand, .openBracket => some { s with need := .parameterIndex }
  | .operand, t => t.operand?.map fun e => { s with need := .extension e }
  | .parameterIndex, .integer n => some { s with need := .parameterClose n }
  | .parameterClose n, .closeBracket => some { s with need := .extension (.parameter n) }
  | .extension e, .dot => some { s with need := .propertyName e }
  | .extension e, .openBracket => some { s with need := .indexKey e }
  | .extension e, .plus => some { s with sum := some (Expr.plus s.sum e), need := .operand }
  | .extension e, .closeParen =>
    match s.outer with
    | sum :: outer => some ⟨outer, sum, .extension (Expr.plus s.sum e)⟩
    | [] => none
  | .propertyName e, .name n => some { s with need := .extension (.property e n) }
  | .indexKey e, .integer n => some { s with need := .indexClose e (.integer n) }
  | .indexKey e, .string k => some { s with need := .indexClose e (.text k) }
  | .indexClose e k, .closeBracket => some { s with need := .extension (.index e k) }
  | _, _ => none

/-- The expression, if one is complete. -/
def finish (s : ReaderState) : Option Expr :=
  match s.outer, s.need with
  | [], .extension e => some (Expr.plus s.sum e)
  | _, _ => none

end ReaderState

def reader : Scan.Reader Token ReaderState Expr where
  language := .expression
  start := .start
  step := ReaderState.step
  finish := ReaderState.finish
  shown := Token.shown

/-- Reads an expression. -/
def parse (source : String) : Except Failure Expr := reader.read source (Token.scan source)

end LinkedDocs.Expr
