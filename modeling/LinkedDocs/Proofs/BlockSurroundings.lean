import LinkedDocs.Proofs.Segments
import LinkedDocs.Proofs.TemplateWords

/-! Blocks in any surroundings.

    The brace that closes a block around an expression is found whatever stands behind it. So a text
    that begins with such a block is scanned to the block and then as the rest would be by itself:
    to the same tokens or segments, or up to the same fault, only further on in the text. -/

namespace LinkedDocs

variable {α : Type}

/-! ### The rest of a text -/

/-- The token, `k` characters further on. -/
def Placed.shift (k : Nat) (t : Placed α) : Placed α := { t with position := t.position + k }

/-- A fault in the rest of a text, reported for the whole `source`, in which the rest begins at
    `k`. -/
def ExpressionFault.within (k : Nat) (source : String) : ExpressionFault → ExpressionFault
  | .illegalCharacter l c p _ => .illegalCharacter l c (p + k) source
  | .unterminatedBlock p _ => .unterminatedBlock (p + k) source
  | .invalidUnicodeEscape _ => .invalidUnicodeEscape source
  | f => f

def Failure.within (k : Nat) (source : String) : Failure → Failure
  | .expression f => .expression (f.within k source)
  | f => f

namespace Scan

def Lexeme.within (k : Nat) (source : String) : Lexeme α → Lexeme α
  | .failure f => .failure (f.within k source)
  | l => l

/-- What is wrong with a numeral does not depend on where it stands. -/
theorem Lexeme.of_within (k : Nat) (source : String) (isNumeral : Bool) (text : List Char) (a : α)
    (n : Nat) : Lexeme.within k source (.of isNumeral text a n) = .of isNumeral text a n := by
  rcases Lexeme.of_cases isNumeral text a n with ⟨found, -⟩ | ⟨found, -⟩ <;> rw [found] <;> rfl

def ScanEnd.within (k : Nat) (source : String) : ScanEnd → ScanEnd
  | .complete => .complete
  | .failure f => .failure (f.within k source)
  | .openBlock p => .openBlock (p + k)

/-- The scan of the rest as a part of the scan of the whole. -/
def within (k : Nat) (source : String) (s : Scan α) : Scan α :=
  ⟨s.tokens.map (Placed.shift k), ScanEnd.within k source s.ending⟩

variable {rule rule' : Nat → List Char → Lexeme α} {k : Nat} {source : String}

/-- If the rule for the whole finds what the rule for the rest does, the whole is scanned as the
    rest is. -/
theorem scanFrom_within (h : ∀ p cs, rule' (p + k) cs = Lexeme.within k source (rule p cs))
    (pending position : Nat) (cs : List Char) :
    scanFrom rule' pending (position + k) cs
      = (scanFrom rule pending position cs).within k source := by
  induction cs generalizing pending position with
  | nil => cases pending <;> rfl
  | cons c cs ih =>
    have next (n : Nat) : scanFrom rule' n (position + k + 1) cs
        = (scanFrom rule n (position + 1) cs).within k source := by
      rw [Nat.add_right_comm]
      exact ih n (position + 1)
    cases pending with
    | succ n => exact next n
    | zero =>
      rw [scanFrom, scanFrom, h]
      cases rule position (c :: cs) with
      | token a n =>
        simp only [Lexeme.within, next]
        rfl
      | skip => exact next 0
      | failure f => rfl
      | openBlock => rfl

theorem result_within (s : Scan α) (rest : String) : (s.within k source).result source
    = ((s.result rest).map fun ts => ts.map (Placed.shift k)).mapError (Failure.within k source) := by
  obtain ⟨ts, ending⟩ := s
  cases ending <;> rfl

theorem result_cons (t : Placed α) (s : Scan α) :
    (cons t s).result source = (s.result source).map (t :: ·) := by
  obtain ⟨ts, ending⟩ := s
  cases ending <;> rfl

/-- A word in front of a text is taken, and the text is scanned as it would be by itself. -/
theorem result_word {w : List Char} {a : α} (hw : w ≠ []) {rest : String}
    (h : rule' 0 (w ++ rest.toList) = .token a w.length)
    (behind : ∀ p cs, rule' (p + w.length) cs = Lexeme.within w.length source (rule p cs)) :
    (scanFrom rule' 0 0 (w ++ rest.toList)).result source
      = (((scanFrom rule 0 0 rest.toList).result rest).map
          fun ts => ⟨a, 0⟩ :: ts.map (Placed.shift w.length)).mapError
            (Failure.within w.length source) := by
  rw [scanFrom_word hw h, scanFrom_within behind, result_cons, result_within _ rest]
  cases (scanFrom rule 0 0 rest.toList).result rest <;> rfl

end Scan

open Scan Template

namespace Template

/-! ### Openers -/

/-- What a block is opened by. -/
inductive Opener where
  | bare
  | question
  | colon
  deriving DecidableEq, Repr

namespace Opener

def text : Opener → String
  | .bare => "#\x7b"
  | .question => "?#\x7b"
  | .colon => ":#\x7b"

def isMarked (o : Opener) : Bool := o != .bare

/-- A block around a source. -/
def block (o : Opener) (source : String) : String := o.text ++ source ++ "\x7d"

def segment (o : Opener) (source : String) : Segment :=
  if o.isMarked then .expression source else .bare source

end Opener

variable {o : Opener} {e : String}

theorem Opener.toList_block (o : Opener) (e : String) (rest : List Char) :
    (o.block e).toList ++ rest = o.text.toList ++ (e.toList ++ '}' :: rest) := by
  simp [block]

theorem Opener.length_block (o : Opener) (e : String) :
    (o.block e).toList.length = o.text.toList.length + e.toList.length + 1 := by
  simp [block]
  omega

theorem Opener.block_ne_nil (o : Opener) (e : String) : (o.block e).toList ≠ [] := by
  simp [block]

/-- A block ends behind its source. -/
theorem Opener.body?_block {rest : List Char}
    (closed : Block.closing 0 0 (e.toList ++ '}' :: rest) = some e.toList.length) :
    Block.body? o.text.toList.length ((o.block e).toList ++ rest)
      = some (e.toList, (o.block e).toList.length) := by
  rw [o.toList_block, Block.body?, List.drop_left]
  simp only [closed, Option.map_some, List.take_left, o.length_block]

theorem closed_of_tokens {ts : List (Placed Expr.Token)} (h : Expr.Token.tokens e = .ok ts)
    (rest : List Char) : Block.closing 0 0 (e.toList ++ '}' :: rest) = some e.toList.length :=
  Expr.Token.closing_of_scan (result_eq_ok.1 h).1 rest

theorem Opener.markedOpener?_text (cs : List Char) : Block.markedOpener? (o.text.toList ++ cs)
    = if o.isMarked then some o.text.toList.length else none := by
  cases o with
  | bare =>
    cases cs with
    | nil => rfl
    | cons c cs => simp [text, isMarked, Block.markedOpener?]
  | question => rfl
  | colon => rfl

end Template

/-! ### One block -/

namespace Segment

variable {cs : List Char} {n : Nat}

theorem rule_marked (opener : Block.markedOpener? cs = some n)
    (p : Nat) : rule p cs = match Block.body? n cs with
      | some (body, length) => .token (.expression (String.ofList body)) length
      | none => .openBlock := by
  cases cs with
  | nil => cases opener
  | cons c cs =>
    cases body : Block.body? n (c :: cs) <;> simp only [rule, opener, body]

theorem rule_bare (marked : Block.markedOpener? cs = none)
    (opener : Block.bareOpener? cs = some n) (p : Nat) :
    rule p cs = match Block.body? n cs with
      | some (body, length) => .token (.bare (String.ofList body)) length
      | none => .openBlock := by
  cases cs with
  | nil => cases opener
  | cons c cs =>
    cases body : Block.body? n (c :: cs) <;> simp only [rule, marked, opener, body]

end Segment

namespace Template

variable {o : Opener} {e : String}

/-- Where an opener stands, the rule looks for the end of its block. -/
theorem Opener.rule_text (o : Opener) (cs : List Char) (p : Nat) :
    Segment.rule p (o.text.toList ++ cs)
      = match Block.body? o.text.toList.length (o.text.toList ++ cs) with
        | some (body, length) => .token (o.segment (String.ofList body)) length
        | none => .openBlock := by
  have marked := o.markedOpener?_text cs
  cases o with
  | bare => exact Segment.rule_bare marked rfl p
  | question => exact Segment.rule_marked marked p
  | colon => exact Segment.rule_marked marked p

/-- A closed block is one segment. -/
theorem Opener.segment_rule {rest : List Char}
    (closed : Block.closing 0 0 (e.toList ++ '}' :: rest) = some e.toList.length) (p : Nat) :
    Segment.rule p ((o.block e).toList ++ rest)
      = .token (o.segment e) (o.block e).toList.length := by
  rw [o.toList_block, o.rule_text, ← o.toList_block, o.body?_block closed]
  simp only [String.ofList_toList]

/-- A closed block with a mark is one token. -/
theorem Opener.token_rule {rest : List Char} (hmark : o.isMarked = true)
    (closed : Block.closing 0 0 (e.toList ++ '}' :: rest) = some e.toList.length)
    (source : String) (p : Nat) : Token.rule source p ((o.block e).toList ++ rest)
      = .token (.expression e) (o.block e).toList.length := by
  have body := o.body?_block closed
  have marked := o.markedOpener?_text (e.toList ++ '}' :: rest)
  rw [if_pos hmark, ← o.toList_block] at marked
  have delimited : Token.delimited? source ((o.block e).toList ++ rest)
      = some (.token (.expression e) (o.block e).toList.length) := by
    simp only [Token.delimited?, marked, body, String.ofList_toList]
  obtain ⟨c, cs, hc, gap⟩ : ∃ c cs, (o.block e).toList ++ rest = c :: cs ∧ isGap c = false := by
    rw [o.toList_block]
    cases o <;> exact ⟨_, _, rfl, rfl⟩
  rw [hc] at delimited ⊢
  rw [Token.rule, gap, delimited]
  rfl

end Template

/-! ### The rules for the whole and for the rest -/

namespace Template.Token

theorem unescape_within (k : Nat) (content source source' : String) :
    unescape content source = (unescape content source').mapError (Failure.within k source) := by
  unfold unescape
  cases unescape? content.toList <;> rfl

theorem delimited?_within (k : Nat) (source source' : String) (cs : List Char) :
    delimited? source cs = (delimited? source' cs).map (Lexeme.within k source) := by
  unfold delimited?
  split
  · split <;> rfl
  · rw [Option.map_map]
    refine congrArg (Option.map · (stringLength? cs)) (funext fun n => ?_)
    rw [unescape_within k _ source source', Function.comp]
    cases unescape _ source' <;> rfl

/-- The rule of templates finds the same wherever a text stands. -/
theorem rule_within (k : Nat) (source source' : String) (p : Nat) (cs : List Char) :
    rule source (p + k) cs = Lexeme.within k source (rule source' p cs) := by
  cases cs with
  | nil => rfl
  | cons c cs =>
    rw [rule, rule, delimited?_within k source source']
    split
    · rfl
    · cases delimited? source' (c :: cs) with
      | some l => rfl
      | none =>
        cases simple? (c :: cs) with
        | none => rfl
        | some found => exact (Lexeme.of_within k source _ _ _ _).symm

/-- A text that begins with a token is made of it and the tokens of the rest. -/
theorem tokens_append {w : String} {a : Token} {rest : String} (hw : w.toList ≠ [])
    (h : rule (w ++ rest) 0 (w.toList ++ rest.toList) = .token a w.toList.length) :
    tokens (w ++ rest) = ((tokens rest).map
      fun ts => ⟨a, 0⟩ :: ts.map (Placed.shift w.toList.length)).mapError
        (Failure.within w.toList.length (w ++ rest)) := by
  rw [tokens, scan, String.toList_append, result_word hw h (rule_within _ _ rest)]
  rfl

end Template.Token

namespace Segment

theorem rule_within (k : Nat) (source : String) (p : Nat) (cs : List Char) :
    rule (p + k) cs = Lexeme.within k source (rule p cs) := by
  cases cs with
  | nil => rfl
  | cons c cs =>
    change rule p (c :: cs) = _
    obtain ⟨a, n, h⟩ | h | ⟨h, -⟩ := rule_cases p c cs <;> rw [h] <;> rfl

/-- A text that begins with a segment is cut into it and the segments of the rest. -/
theorem split_append {w : String} {a : Segment} (rest : String) (hw : w.toList ≠ [])
    (h : rule 0 (w.toList ++ rest.toList) = .token a w.toList.length) :
    split (w ++ rest) = ((split rest).map (a :: ·)).mapError
      (Failure.within w.toList.length (w ++ rest)) := by
  rw [split, String.toList_append, result_word hw h (rule_within _ _), split]
  cases (scanFrom rule 0 0 rest.toList).result rest with
  | error f => rfl
  | ok ts =>
    simp [Except.map, Except.mapError, Placed.shift, Function.comp_def]

/-- A text that is one segment is cut into nothing else. -/
theorem split_word {w : String} {a : Segment} (hw : w.toList ≠ [])
    (h : rule 0 w.toList = .token a w.toList.length) : split w = .ok [a] := by
  have behind := split_append "" hw
    (by rw [String.toList_empty, List.append_nil]; exact h)
  rw [String.append_empty] at behind
  exact behind

end Segment

/-! ### Reading on behind a block -/

namespace Template

/-- A block around a text that is made of tokens is read as a whole, whatever stands behind it: a
    template goes on with the tokens of the rest and a string with its segments, and either fails
    just where the rest does. -/
theorem block_read_whole {e : String} {ts : List (Placed Expr.Token)}
    (h : Expr.Token.tokens e = .ok ts) (o : Opener) (rest : String) :
    (o.isMarked = true → Token.tokens (o.block e ++ rest) = ((Token.tokens rest).map
      fun us => ⟨.expression e, 0⟩ :: us.map (Placed.shift (o.block e).length)).mapError
        (Failure.within (o.block e).length (o.block e ++ rest))) ∧
    Segment.split (o.block e ++ rest) = ((Segment.split rest).map (o.segment e :: ·)).mapError
      (Failure.within (o.block e).length (o.block e ++ rest)) := by
  have closed := closed_of_tokens h rest.toList
  rw [← String.length_toList]
  constructor
  · intro marked
    exact Token.tokens_append (o.block_ne_nil e) (Opener.token_rule marked closed _ 0)
  · exact Segment.split_append rest (o.block_ne_nil e) (Opener.segment_rule closed 0)

/-- The source holds a brace and an escaped quote in its strings; behind the block come another
    brace and a quote. -/
theorem block_read_whole_tempted :
    Token.tokens (Opener.question.block "a['\x7d'] + \"\\\"\"" ++ "\x7d 'x'")
      = .ok [⟨.expression "a['\x7d'] + \"\\\"\"", 0⟩, ⟨.closeBrace, 17⟩, ⟨.string "x", 19⟩] ∧
    Segment.split (Opener.bare.block "a['\x7d'] + \"\\\"\"" ++ "\x7d '?0")
      = .ok [.bare "a['\x7d'] + \"\\\"\"", .text "\x7d '", .placeholder 0] := by
  obtain ⟨ts, h⟩ : ∃ ts, Expr.Token.tokens "a['\x7d'] + \"\\\"\"" = .ok ts := ⟨_, rfl⟩
  exact ⟨((block_read_whole h .question _).1 rfl).trans rfl, (block_read_whole h .bare _).2.trans rfl⟩

end Template

end LinkedDocs
