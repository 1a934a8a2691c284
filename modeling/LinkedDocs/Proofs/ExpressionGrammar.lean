import LinkedDocs.Proofs.Scanning
import LinkedDocs.Expr.Reading

/-! The grammar of expressions and the reader of expressions.

    Properties and indexes bind tighter than addition, and additions associate to the left: so an
    addition stands in parentheses to the right of a plus and in front of a property or an index,
    and any expression may. The reader accepts exactly what the grammar writes. A state of the
    reader is read as the tokens it has seen: those of the parentheses still open, each behind the
    sum it stands in, then those of the sum to the left, then those of the term. One token keeps
    this true. Conversely a term takes the reader from where an operand is needed to where the term
    may be extended, whatever is open around it. -/

namespace LinkedDocs.Expr

open Scan

/-- The token that an index key is written as. -/
inductive WritesKey : Key → Token → Prop
  | integer (n : Int) : WritesKey (.integer n) (.integer n)
  | text (s : String) : WritesKey (.text s) (.string s)

/-- The token that an operand is written as, if it is a single one. -/
inductive WritesOperand : Expr → Token → Prop
  | integer (n : Int) : WritesOperand (.literal (.int n)) (.integer n)
  | float (x : Float) : WritesOperand (.literal (.float x)) (.float x)
  | text (s : String) : WritesOperand (.literal (.text s)) (.string s)
  | keyword (k : Keyword) : WritesOperand (.literal k.value) (.keyword k)
  | variable (name : String) : WritesOperand (.variable name) (.variable name)
  | root (name : String) : WritesOperand (.root name) (.name name)

mutual

/-- The token sequences that an expression is written as. -/
inductive Yields : Expr → List Token → Prop
  | term {e : Expr} {ts : List Token} (h : YieldsTerm e ts) : Yields e ts
  | add {l r : Expr} {ts us : List Token} (hl : Yields l ts) (hr : YieldsTerm r us) :
    Yields (.add l r) (ts ++ .plus :: us)

/-- The token sequences of an expression to the right of a plus and in front of a property or an
    index: an addition has parentheses there. -/
inductive YieldsTerm : Expr → List Token → Prop
  | operand {e : Expr} {a : Token} (h : WritesOperand e a) : YieldsTerm e [a]
  | parameter (n : Int) : YieldsTerm (.parameter n) [.openBracket, .integer n, .closeBracket]
  | property {e : Expr} {ts : List Token} (h : YieldsTerm e ts) (name : String) :
    YieldsTerm (.property e name) (ts ++ [.dot, .name name])
  | index {e : Expr} {ts : List Token} {key : Key} {k : Token} (h : YieldsTerm e ts)
    (hk : WritesKey key k) : YieldsTerm (.index e key) (ts ++ [.openBracket, k, .closeBracket])
  | group {e : Expr} {ts : List Token} (h : Yields e ts) :
    YieldsTerm e (.openParen :: ts ++ [.closeParen])

end

theorem operand?_eq_some {a : Token} {e : Expr} : a.operand? = some e ↔ WritesOperand e a := by
  constructor
  · intro h
    cases a <;> cases h <;> constructor
  · rintro ⟨⟩ <;> rfl

namespace ReaderState

/-- Runs the reader over tokens. -/
def run (s : ReaderState) (ts : List Token) : Option ReaderState := ts.foldlM step s

@[simp] theorem run_nil (s : ReaderState) : s.run [] = some s := rfl

@[simp] theorem run_cons (s : ReaderState) (a : Token) (ts : List Token) :
    s.run (a :: ts) = (s.step a).bind (·.run ts) := rfl

@[simp] theorem run_append (s : ReaderState) (ts us : List Token) :
    s.run (ts ++ us) = (s.run ts).bind (·.run us) := List.foldlM_append

/-! ### What an expression is written as is accepted -/

theorem step_operand {outer : List (Option Expr)} {sum : Option Expr} {e : Expr} {a : Token}
    (h : WritesOperand e a) : step ⟨outer, sum, .operand⟩ a = some ⟨outer, sum, .extension e⟩ := by
  cases h <;> rfl

theorem run_key {outer : List (Option Expr)} {sum : Option Expr} {e : Expr} {key : Key} {k : Token}
    (h : WritesKey key k) : run ⟨outer, sum, .extension e⟩ [.openBracket, k, .closeBracket]
      = some ⟨outer, sum, .extension (.index e key)⟩ := by
  cases h <;> rfl

mutual

/-- An expression takes the reader to where its last term may be extended. -/
theorem run_yields : ∀ {e : Expr} {ts : List Token}, Yields e ts → ∀ outer : List (Option Expr),
    ∃ sum last, plus sum last = e ∧
      run ⟨outer, none, .operand⟩ ts = some ⟨outer, sum, .extension last⟩
  | e, _, .term h, outer => ⟨none, e, rfl, run_yieldsTerm h outer none⟩
  | _, _, .add (l := l) (r := r) hl hr, outer => by
    obtain ⟨sum, last, rfl, hrun⟩ := run_yields hl outer
    refine ⟨some (plus sum last), r, rfl, ?_⟩
    rw [run_append, hrun, Option.bind_some, run_cons]
    exact run_yieldsTerm hr outer (some (plus sum last))

/-- A term takes the reader to where it may be extended. -/
theorem run_yieldsTerm : ∀ {e : Expr} {ts : List Token}, YieldsTerm e ts →
    ∀ (outer : List (Option Expr)) (sum : Option Expr),
      run ⟨outer, sum, .operand⟩ ts = some ⟨outer, sum, .extension e⟩
  | _, _, .operand h, outer, sum => by
    rw [run_cons, step_operand h, Option.bind_some, run_nil]
  | _, _, .parameter _, _, _ => rfl
  | _, _, .property h _, outer, sum => by
    rw [run_append, run_yieldsTerm h outer sum]
    rfl
  | _, _, .index h hk, outer, sum => by
    rw [run_append, run_yieldsTerm h outer sum, Option.bind_some, run_key hk]
  | _, _, .group h, outer, sum => by
    obtain ⟨inner, last, rfl, hrun⟩ := run_yields h (sum :: outer)
    rw [List.cons_append, run_cons]
    change run ⟨sum :: outer, none, .operand⟩ _ = _
    rw [run_append, hrun]
    rfl

end

/-! ### What is accepted is what an expression is written as -/

/-- The tokens of a sum that waits for its next term. -/
inductive SumSeen : Option Expr → List Token → Prop
  | nothing : SumSeen none []
  | some {e : Expr} {ts : List Token} (h : Yields e ts) : SumSeen (some e) (ts ++ [.plus])

/-- The tokens of the parentheses that are open, each behind the sum it stands in. -/
inductive Opens : List (Option Expr) → List Token → Prop
  | nothing : Opens [] []
  | paren {outer : List (Option Expr)} {sum : Option Expr} {ts us : List Token}
    (h : Opens outer ts) (hs : SumSeen sum us) : Opens (sum :: outer) (ts ++ us ++ [.openParen])

/-- The tokens of the term that is being read. -/
inductive TermSeen : Need → List Token → Prop
  | operand : TermSeen .operand []
  | parameterIndex : TermSeen .parameterIndex [.openBracket]
  | parameterClose (n : Int) : TermSeen (.parameterClose n) [.openBracket, .integer n]
  | extension {e : Expr} {ts : List Token} (h : YieldsTerm e ts) : TermSeen (.extension e) ts
  | propertyName {e : Expr} {ts : List Token} (h : YieldsTerm e ts) :
    TermSeen (.propertyName e) (ts ++ [.dot])
  | indexKey {e : Expr} {ts : List Token} (h : YieldsTerm e ts) :
    TermSeen (.indexKey e) (ts ++ [.openBracket])
  | indexClose {e : Expr} {ts : List Token} {key : Key} {k : Token} (h : YieldsTerm e ts)
    (hk : WritesKey key k) : TermSeen (.indexClose e key) (ts ++ [.openBracket, k])

/-- The tokens that the reader has seen in a state. -/
inductive Seen : ReaderState → List Token → Prop
  | mk {outer : List (Option Expr)} {sum : Option Expr} {need : Need} {ts us vs : List Token}
    (ho : Opens outer ts) (hs : SumSeen sum us) (hn : TermSeen need vs) :
    Seen ⟨outer, sum, need⟩ (ts ++ us ++ vs)

/-- A sum with its next term. -/
theorem SumSeen.plus {sum : Option Expr} {e : Expr} {ts us : List Token} (hs : SumSeen sum ts)
    (h : YieldsTerm e us) : Yields (plus sum e) (ts ++ us) := by
  cases hs with
  | nothing => exact .term h
  | some hs =>
    rw [List.append_assoc]
    exact .add hs h

variable {s s' : ReaderState} {a : Token} {ts us : List Token}

/-- Behind an open parenthesis, and at the start, an expression begins. -/
theorem Opens.seen {outer : List (Option Expr)} (h : Opens outer ts) :
    Seen ⟨outer, none, .operand⟩ ts := by
  have seen := Seen.mk h .nothing .operand
  rw [List.append_nil, List.append_nil] at seen
  exact seen

/-- A token that belongs to the term alone. -/
theorem Seen.step_term {outer : List (Option Expr)} {sum : Option Expr} {need : Need}
    {ts us vs : List Token} (ho : Opens outer ts) (hs : SumSeen sum us)
    (h : TermSeen need (vs ++ [a])) : Seen ⟨outer, sum, need⟩ (ts ++ us ++ vs ++ [a]) := by
  rw [List.append_assoc]
  exact .mk ho hs h

/-- A complete term is extended, becomes part of a sum, or ends the parentheses around it. -/
theorem extension_seen {outer : List (Option Expr)} {sum : Option Expr} {e : Expr}
    {vs : List Token} (ho : Opens outer ts) (hsum : SumSeen sum us) (h : YieldsTerm e vs)
    (hs : step ⟨outer, sum, .extension e⟩ a = some s') : Seen s' (ts ++ us ++ vs ++ [a]) := by
  have whole := hsum.plus h
  match a with
  | .dot =>
    cases hs
    exact .step_term ho hsum (.propertyName h)
  | .openBracket =>
    cases hs
    exact .step_term ho hsum (.indexKey h)
  | .plus =>
    cases hs
    have seen := Seen.mk ho (.some whole) .operand
    simpa using seen
  | .closeParen =>
    cases ho with
    | nothing => cases hs
    | paren ho hsum' =>
      cases hs
      have seen := Seen.mk ho hsum' (.extension (.group whole))
      simpa using seen
  | .variable _ | .name _ | .keyword _ | .float _ | .integer _ | .string _ | .closeBracket
  | .openParen => cases hs

/-- One token keeps what a state says about the tokens seen. -/
theorem Seen.step (h : Seen s ts) (hs : s.step a = some s') : Seen s' (ts ++ [a]) := by
  obtain ⟨ho, hsum, hn⟩ := h
  cases hn with
  | operand =>
    rw [List.append_nil]
    by_cases paren : a = .openParen
    · subst paren
      cases hs
      exact (Opens.paren ho hsum).seen
    · by_cases bracket : a = .openBracket
      · subst bracket
        cases hs
        exact .mk ho hsum .parameterIndex
      · cases a <;> cases hs <;> first
          | exact absurd rfl paren
          | exact absurd rfl bracket
          | exact .mk ho hsum (.extension (.operand (operand?_eq_some.1 rfl)))
  | parameterIndex =>
    cases a <;> cases hs
    exact .step_term ho hsum (.parameterClose _)
  | parameterClose n =>
    cases a <;> cases hs
    exact .step_term ho hsum (.extension (.parameter n))
  | extension h => exact extension_seen ho hsum h hs
  | propertyName h =>
    cases a <;> cases hs
    refine .step_term ho hsum (.extension ?_)
    rw [List.append_assoc]
    exact .property h _
  | indexKey h =>
    cases a <;> cases hs
    all_goals
      refine .step_term ho hsum ?_
      rw [List.append_assoc]
      exact .indexClose h (by constructor)
  | indexClose h hk =>
    cases a <;> cases hs
    refine .step_term ho hsum (.extension ?_)
    rw [List.append_assoc]
    exact .index h hk

/-- Induction on the tokens still to come. -/
theorem Seen.run (h : Seen s ts) (hs : s.run us = some s') : Seen s' (ts ++ us) := by
  induction us generalizing s ts with
  | nil =>
    cases hs
    rw [List.append_nil]
    exact h
  | cons a us ih =>
    obtain ⟨s₁, h₁, hs⟩ := Option.bind_eq_some_iff.1 hs
    have next := ih (h.step h₁) hs
    rw [List.append_assoc] at next
    exact next

theorem finish_eq_some {e : Expr} :
    s.finish = some e ↔ ∃ sum last, s = ⟨[], sum, .extension last⟩ ∧ plus sum last = e := by
  obtain ⟨outer, sum, need⟩ := s
  cases outer <;> cases need <;> simp [finish]

/-- The reader accepts exactly the token sequences that an expression is written as. -/
theorem run_finish_iff {e : Expr} :
    (∃ s, start.run ts = some s ∧ s.finish = some e) ↔ Yields e ts := by
  constructor
  · rintro ⟨s, hs, hf⟩
    obtain ⟨sum, last, rfl, rfl⟩ := finish_eq_some.1 hf
    obtain ⟨ho, hsum, hn⟩ := Opens.nothing.seen.run hs
    cases ho
    cases hn with
    | extension h => exact hsum.plus h
  · intro h
    obtain ⟨sum, last, he, hs⟩ := run_yields h []
    exact ⟨_, hs, finish_eq_some.2 ⟨sum, last, rfl, he⟩⟩

end ReaderState

/-- No token sequence is written for two expressions. -/
theorem Yields.unique {e e' : Expr} {ts : List Token} (h : Yields e ts) (h' : Yields e' ts) :
    e = e' := by
  obtain ⟨s, hs, hf⟩ := ReaderState.run_finish_iff.2 h
  obtain ⟨s', hs', hf'⟩ := ReaderState.run_finish_iff.2 h'
  obtain rfl := Option.some.inj (hs.symm.trans hs')
  exact Option.some.inj (hf.symm.trans hf')

theorem Yields.ne_nil {e : Expr} {ts : List Token} (h : Yields e ts) : ts ≠ [] := by
  rintro rfl
  obtain ⟨s, hs, hf⟩ := ReaderState.run_finish_iff.2 h
  cases hs
  cases hf

/-! ### Reading texts -/

/-- An expression is read off a text exactly if the text is made of tokens that it is written as. -/
theorem parse_eq_ok {source : String} {e : Expr} :
    parse source = .ok e ↔
      ∃ ts, Token.tokens source = .ok ts ∧ Yields e (ts.map (·.token)) := by
  rw [parse, Reader.read_eq_ok]
  constructor
  · rintro ⟨ts, s, hts, hs, hf⟩
    exact ⟨ts, hts, ReaderState.run_finish_iff.1 ⟨s, hs, hf⟩⟩
  · rintro ⟨ts, hts, h⟩
    obtain ⟨s, hs, hf⟩ := ReaderState.run_finish_iff.2 h
    exact ⟨ts, s, hts, hs, hf⟩

theorem Token.isNumeral_ofWord (s : String) : (ofWord s).isNumeral = false := by
  unfold ofWord
  split <;> rfl

theorem Token.isNumeral_ofMark? {c : Char} {a : Token} (h : ofMark? c = some a) :
    a.isNumeral = false := by
  unfold ofMark? at h
  split at h <;> cases h <;> rfl

/-- What begins with an integer that is too long has too many digits in a row. -/
theorem Token.hasOverlong_of_first {cs : List Char} {a : Token} {n : Nat}
    (h : first? cs = some (a, n)) (ha : a.isNumeral = true)
    (long : Text.isReadable (cs.take n) = false) : HasOverlong cs := by
  unfold first? at h
  simp only [Option.orElse_eq_orElse, Option.orElse_eq_or, Option.or_eq_some_iff] at h
  rcases h with h | ⟨-, h | ⟨-, h | ⟨-, h | ⟨-, h⟩⟩⟩⟩
  · unfold hashName? at h
    split at h
    · split at h <;> cases h
      cases ha
    · cases h
  · unfold number? at h
    split at h
    · cases h
    · next m hm =>
      dsimp only at h
      split at h <;> cases h
      · cases ha
      · exact hasOverlong_of_integer hm long
  · obtain ⟨m, -, heq⟩ := Option.map_eq_some_iff.1 h
    cases heq
    cases ha
  · unfold word? at h
    split at h
    · split at h <;> cases h
      rw [isNumeral_ofWord] at ha
      cases ha
    · cases h
  · unfold mark? at h
    split at h
    · obtain ⟨b, hb, heq⟩ := Option.map_eq_some_iff.1 h
      cases heq
      rw [isNumeral_ofMark? hb] at ha
      cases ha
    · cases h

/-- The rule fails with errors of the expression language, or at a numeral that is too long. -/
theorem Token.failure_of_rule {source : String} {p : Nat} {cs : List Char} {f : Failure}
    (h : Token.rule source p cs = .failure f) :
    (∃ e, f = .expression e) ∨ f = .misuse .content ∧ HasOverlong cs := by
  unfold Token.rule at h
  split at h
  · cases h
  · split at h
    · cases h
    · split at h
      · next first =>
        obtain ⟨rfl, numeral, long⟩ := Lexeme.of_eq_failure h
        exact .inr ⟨rfl, hasOverlong_of_first first numeral long⟩
      · cases h
        exact .inl ⟨_, rfl⟩

/-- A text that is no expression is reported as such, unless its tokens end at a numeral that is too
    long. -/
theorem parse_cases (source : String) : (∃ e, parse source = .ok e) ∨
    (∃ fault, parse source = .error (.expression fault)) ∨
      parse source = .error (.misuse .content) ∧
        Token.tokens source = .error (.misuse .content) ∧ HasOverlong source.toList :=
  Reader.read_cases reader source Token.failure_of_rule

end LinkedDocs.Expr
