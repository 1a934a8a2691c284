import LinkedDocs.Failure
import LinkedDocs.Text.Digit

/-! Scanning a text into tokens, and reading a tree off the tokens.

    A rule looks at the rest of the text and says how many characters the next token takes. The scan
    walks the text once, and passes over the characters of a token it has already taken. A reader is
    an automaton over the tokens: what it does not accept is reported at the first token that has no
    place, and before anything the scan finds wrong further on. -/

namespace LinkedDocs

/-- A token and the position of its first character. -/
structure Placed (α : Type) where
  token : α
  position : Nat

/-- What a rule finds at the start of the rest of a text; a length counts at least one character. -/
inductive Lexeme (α : Type) where
  | token (a : α) (length : Nat)
  | skip
  | failure (f : Failure)
  /-- A block starts here that is never closed. -/
  | openBlock

/-- A token with its text. A numeral is turned into an integer here, unless it has too many digits
    to be read. -/
def Lexeme.of {α : Type} (isNumeral : Bool) (text : List Char) (a : α) (length : Nat) : Lexeme α :=
  if isNumeral && !Text.isReadable text then .failure (.misuse .content) else .token a length

/-- How a scan ends. -/
inductive ScanEnd where
  | complete
  | failure (f : Failure)
  | openBlock (position : Nat)

/-- The tokens of a text up to its end or to what is wrong with it. -/
structure Scan (α : Type) where
  tokens : List (Placed α)
  ending : ScanEnd

namespace Scan

variable {α σ : Type}

def cons (t : Placed α) (s : Scan α) : Scan α := { s with tokens := t :: s.tokens }

/-- Scans from `position` on, after passing over `pending` characters. -/
def scanFrom (rule : Nat → List Char → Lexeme α) : (pending position : Nat) → List Char → Scan α
  | _, _, [] => ⟨[], .complete⟩
  | pending + 1, position, _ :: cs => scanFrom rule pending (position + 1) cs
  | 0, position, c :: cs =>
    match rule position (c :: cs) with
    | .token a n => cons ⟨a, position⟩ (scanFrom rule (n - 1) (position + 1) cs)
    | .skip => scanFrom rule 0 (position + 1) cs
    | .failure f => ⟨[], .failure f⟩
    | .openBlock => ⟨[], .openBlock position⟩

/-- All tokens, if the whole text is made of tokens. -/
def result (s : Scan α) (source : String) : Except Failure (List (Placed α)) :=
  match s.ending with
  | .complete => .ok s.tokens
  | .failure f => .error f
  | .openBlock p => .error (.expression (.unterminatedBlock p source))

/-- An automaton over tokens that reads a `τ`; `language` and `shown` are for its complaints. -/
structure Reader (α σ τ : Type) where
  language : Language
  start : σ
  step : σ → α → Option σ
  finish : σ → Option τ
  shown : α → String

/-- Runs the automaton from a state over the tokens up to the first one it does not accept. -/
def Reader.run {τ : Type} (r : Reader α σ τ) (source : String) :
    σ → List (Placed α) → Except Failure σ
  | s, [] => .ok s
  | s, t :: ts =>
    match r.step s t.token with
    | some s => Reader.run r source s ts
    | none =>
      .error (.expression (.unexpectedToken r.language (r.shown t.token) t.position source))

/-- Reads a whole text. A block that is never closed ends the text; that is wrong even where the
    text could end. -/
def Reader.read {τ : Type} (r : Reader α σ τ) (source : String) (s : Scan α) :
    Except Failure τ := do
  let state ← r.run source r.start s.tokens
  match s.ending with
  | .failure f => .error f
  | ending =>
    match r.finish state with
    | none => .error (.expression (.unexpectedEnd r.language source))
    | some t =>
      match ending with
      | .openBlock p => .error (.expression (.unterminatedBlock p source))
      | _ => .ok t

end Scan

end LinkedDocs
