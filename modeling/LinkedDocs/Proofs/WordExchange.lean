import LinkedDocs.Proofs.Spellings

/-! Words that take each other's place.

    A token that ends in front of a word with a quote or a mark of a block at its start does not
    depend on that word, and neither do the tokens behind it. Only a block is read on to the brace
    that closes it, past quotes that may belong to strings; a block around an expression made of
    tokens has its brace wherever it stands. So one such word may take the place of another, and all
    other tokens of the text stay. -/

namespace LinkedDocs

open Scan Template

/-! ### Lexemes in front of a word -/

namespace Scan

/-- What a key that is bound may begin with. -/
def keyMarks : List Char := ['?', ':', '\'', '"']

/-- Marks that no numeral goes on with: those of keys, and what opens a block. -/
def numeralEnds : List Char := '#' :: keyMarks

theorem EndsAt.numeral {rest : List Char} (h : EndsAt keyMarks rest) : EndsAt numeralEnds rest :=
  h.mono fun _ => List.mem_cons_of_mem '#'

variable {q : Char} {cs w rest : List Char} {n : Nat}

/-- A string that ends within a text is one of that text. -/
theorem stringTail_of_append (h : stringTail q (cs ++ rest) = some n) (hn : n ≤ cs.length) :
    stringTail q cs = some n := by
  fun_induction stringTail q cs generalizing n with
  | case1 =>
    have := (stringTail_append h []).1
    simp only [List.length_nil] at hn
    omega
  | case2 => rw [← h, List.singleton_append, stringTail_quote]
  | case3 c hq =>
    have length : 1 < n := by
      rw [List.singleton_append] at h
      cases rest with
      | nil => simp [stringTail, hq] at h
      | cons d rest =>
        rw [stringTail, if_neg hq] at h
        split at h
        · split at h
          · cases h
          · obtain ⟨m, -, rfl⟩ := Option.map_eq_some_iff.1 h
            omega
        · obtain ⟨m, hm, rfl⟩ := Option.map_eq_some_iff.1 h
          have := (stringTail_append hm []).1
          omega
    simp only [List.length_singleton] at hn
    omega
  | case4 d cs => rw [← h, List.cons_append, stringTail_quote]
  | case5 => simp [stringTail, *] at h
  | case6 d cs hd hq ih =>
    rw [List.cons_append, List.cons_append, stringTail_escape (Ne.symm hq) hd] at h
    obtain ⟨m, hm, rfl⟩ := Option.map_eq_some_iff.1 h
    rw [ih hm (by simp only [List.length_cons] at hn; omega)]
    rfl
  | case7 c d cs hq hc ih =>
    rw [List.cons_append, stringTail_other hq hc] at h
    obtain ⟨m, hm, rfl⟩ := Option.map_eq_some_iff.1 h
    rw [ih hm (by simp only [List.length_cons] at hn ⊢; omega)]
    rfl

theorem stringLength?_of_append (h : stringLength? (cs ++ rest) = some n) (hn : n ≤ cs.length) :
    stringLength? cs = some n := by
  cases cs with
  | nil =>
    have := (stringLength?_append h []).1
    simp only [List.length_nil] at hn
    omega
  | cons c cs =>
    rw [List.cons_append, stringLength?] at h
    rw [stringLength?]
    split at h
    · next hc =>
      obtain ⟨m, hm, rfl⟩ := Option.map_eq_some_iff.1 h
      rw [if_pos hc, stringTail_of_append hm (by simp only [List.length_cons] at hn; omega)]
      rfl
    · cases h

/-- Neither digits nor a sign before them go on into a text that begins with something else. -/
theorem signed_digits_before (w : List Char) (sign : Option Char → Prop) [DecidablePred sign]
    (unsigned : ¬sign rest.head?) (unsigned' : ¬sign none)
    (digit : ∀ c ∈ rest.head?, Text.isDigit c = false) :
    (if sign (w ++ rest).head? then 1 else 0) = (if sign w.head? then 1 else 0) ∧
    runLength Text.isDigit ((w ++ rest).drop (if sign w.head? then 1 else 0))
      = runLength Text.isDigit (w.drop (if sign w.head? then 1 else 0)) := by
  cases w with
  | nil =>
    have none : runLength Text.isDigit ([] ++ rest) = 0 := runLength_append_right digit
    rw [List.nil_append, List.head?_nil, if_neg unsigned, if_neg unsigned']
    exact ⟨rfl, none⟩
  | cons c w =>
    refine ⟨rfl, ?_⟩
    split
    · exact runLength_append_right digit
    · exact runLength_append_right digit

section

variable (ends : EndsAt numeralEnds rest)
include ends

theorem integerLength?_before : integerLength? (w ++ rest) = integerLength? w := by
  have digit := ends.head (p := Text.isDigit) (by decide)
  have minus : rest.head? ≠ some '-' := fun h => by
    simpa using ends.head (p := (· == '-')) (by decide) '-' h
  obtain ⟨sign, digits⟩ := signed_digits_before w (· = some '-') minus nofun digit
  rw [integerLength?, integerLength?]
  simp only [sign, digits]

theorem fractionLength?_before : fractionLength? (w ++ rest) = fractionLength? w := by
  have digit := ends.head (p := Text.isDigit) (by decide)
  have point := ends.head (p := (· == '.')) (by decide)
  cases w with
  | nil => exact fractionLength?_eq_none fun c hc => by simpa using point c hc
  | cons c w =>
    by_cases hc : c = '.'
    · simp [fractionLength?, hc, runLength_append_right digit]
    · rw [List.cons_append, fractionLength?_eq_none, fractionLength?_eq_none] <;> simpa using hc

theorem exponentLength?_before : exponentLength? (w ++ rest) = exponentLength? w := by
  have digit := ends.head (p := Text.isDigit) (by decide)
  have mark := ends.head (p := fun c => c == 'e' || c == 'E') (by decide)
  have unsigned : ¬(rest.head? = some '-' ∨ rest.head? = some '+') := by
    have sign := ends.head (p := fun c => c == '-' || c == '+') (by decide)
    rintro (h | h)
    · simpa using sign '-' h
    · simpa using sign '+' h
  cases w with
  | nil => exact exponentLength?_eq_none fun c hc => by simpa using mark c hc
  | cons c w =>
    obtain ⟨sign, digits⟩ := signed_digits_before w
      (fun c => c = some '-' ∨ c = some '+') unsigned (by simp) digit
    rw [List.cons_append, exponentLength?, exponentLength?]
    simp only [sign, digits]

end

theorem exponentLength?_le (h : exponentLength? cs = some n) : n ≤ cs.length := by
  cases cs with
  | nil => cases h
  | cons c cs =>
    rw [exponentLength?] at h
    extract_lets sign m at h
    split at h
    · split at h
      · cases h
      · next hm =>
        cases h
        have digits := runLength_le Text.isDigit (cs.drop sign)
        rw [List.length_drop] at digits
        simp only [List.length_cons]
        omega
    · cases h

/-- What is measured in the rest of a text ends within the text. -/
theorem add_getD_le {length? : List Char → Option Nat} (hn : n ≤ w.length)
    (h : ∀ k, length? (w.drop n) = some k → k ≤ (w.drop n).length) :
    n + (length? (w.drop n)).getD 0 ≤ w.length := by
  cases hk : length? (w.drop n) with
  | none => exact hn
  | some k =>
    have bound := h k hk
    rw [List.length_drop] at bound
    rw [Option.getD_some]
    omega

/-! ### Positions -/

section

variable {α : Type} {rule : Nat → List Char → Lexeme α} {pending p : Nat} {t : Placed α}
  {ts : List (Placed α)}

theorem le_position (h : t ∈ (scanFrom rule pending p cs).tokens) : p + pending ≤ t.position := by
  induction cs generalizing pending p with
  | nil => cases pending <;> cases h
  | cons c cs ih =>
    cases pending with
    | succ n =>
      have := ih h
      omega
    | zero =>
      rw [scanFrom] at h
      split at h
      · rcases List.mem_cons.1 h with rfl | h
        · exact le_rfl
        · have := ih h
          omega
      · have := ih h
        omega
      · cases h
      · cases h

theorem le_of_tokens {a : α} {q : Nat} {us : List (Placed α)}
    (h : (scanFrom rule pending p cs).tokens = ts ++ ⟨a, q⟩ :: us) : p + pending ≤ q := by
  have mem : ⟨a, q⟩ ∈ (scanFrom rule pending p cs).tokens := by
    rw [h]
    exact List.mem_append_right _ List.mem_cons_self
  exact le_position mem

/-- Behind a token there are none at its position. -/
theorem lt_position (h : (scanFrom rule pending p cs).tokens = t :: ts) :
    ∀ t' ∈ ts, p + pending < t'.position := by
  induction cs generalizing pending p with
  | nil => cases pending <;> cases h
  | cons c cs ih =>
    intro t' ht'
    cases pending with
    | succ n =>
      have := ih h t' ht'
      omega
    | zero =>
      rw [scanFrom] at h
      split at h
      · obtain ⟨rfl, rfl⟩ := List.cons.inj h
        have := le_position ht'
        omega
      · have := ih h t' ht'
        omega
      · cases h
      · cases h

end

end Scan

namespace Template.Token

variable {w rest : List Char} {n : Nat}

theorem number?_before (ends : EndsAt numeralEnds rest) : number? (w ++ rest) = number? w := by
  rw [number?, number?, integerLength?_before ends]
  cases hn : integerLength? w with
  | none => rfl
  | some n =>
    have bound := (integerLength?_spec hn).2.1
    simp only [List.drop_append_of_le_length bound, fractionLength?_before ends]
    -- Each part is looked for behind the one before, so all of them have to end within the word.
    have fraction := add_getD_le bound fun k hk => (fractionLength?_spec hk).1
    generalize n + (fractionLength? (w.drop n)).getD 0 = m at fraction ⊢
    have exponent := add_getD_le fraction fun k hk => exponentLength?_le hk
    simp only [List.drop_append_of_le_length fraction, exponentLength?_before ends,
      List.take_append_of_le_length bound, List.take_append_of_le_length exponent]

theorem markedOpener?_before (ends : EndsAt keyMarks rest) (hw : w ≠ []) :
    Block.markedOpener? (w ++ rest) = Block.markedOpener? w := by
  have hash := ends.head (p := (· == '#')) (by decide)
  have brace := ends.head (p := (· == '{')) (by decide)
  cases opener : Block.markedOpener? w with
  | some n =>
    obtain ⟨rfl, c, r, hc, rfl⟩ := Segment.markedOpener?_eq_some opener
    exact if_pos hc
  | none =>
    refine Option.eq_none_iff_forall_ne_some.2 fun n h => ?_
    obtain ⟨rfl, c, r, hc, heq⟩ := Segment.markedOpener?_eq_some h
    obtain ⟨a, w, rfl⟩ := List.exists_cons_of_ne_nil hw
    cases w with
    | nil =>
      cases heq
      simpa using hash '#' rfl
    | cons b w =>
      cases w with
      | nil =>
        cases heq
        simpa using brace '{' rfl
      | cons d w =>
        cases heq
        rw [Block.markedOpener?, if_pos hc] at opener
        cases opener

section

variable (ends : EndsAt keyMarks rest) (hw : w ≠ [])
include ends hw

theorem placeholder?_before : placeholder? (w ++ rest) = placeholder? w := by
  have digit := ends.head (p := Text.isDigit) (by decide)
  obtain ⟨c, w, rfl⟩ := List.exists_cons_of_ne_nil hw
  by_cases hc : c = '?'
  · subst hc
    have run := runLength_le Text.isDigit w
    simp only [placeholder?, placeholderLength?, List.cons_append, runLength_append_right digit]
    split
    · rfl
    · simp [List.take_append_of_le_length run]
  · rw [List.cons_append, placeholder?_eq_none hc, placeholder?_eq_none hc]

theorem word?_before : word? (w ++ rest) = word? w := by
  have other := ends.head (p := isWordChar) (by decide)
  obtain ⟨c, w, rfl⟩ := List.exists_cons_of_ne_nil hw
  simp only [List.cons_append, word?, runLength_append_right other,
    List.take_append_of_le_length (runLength_le isWordChar w)]

theorem simple?_before : simple? (w ++ rest) = simple? w := by
  have mark : mark? (w ++ rest) = mark? w := by
    obtain ⟨c, w, rfl⟩ := List.exists_cons_of_ne_nil hw
    rfl
  rw [simple?, simple?, placeholder?_before ends hw, number?_before ends.numeral,
    word?_before ends hw,
    mark]

end

/-- A block around an expression that is made of tokens. -/
def HasTokens (a : Token) : Prop := ∀ e, a = .expression e → ∃ ts, Expr.Token.tokens e = .ok ts

theorem ne_of_isDigit {c d : Char} (digit : Text.isDigit d = true) (hc : Text.isDigit c = false) :
    d ≠ c := by
  rintro rfl
  rw [hc] at digit
  cases digit

theorem number?_digit {d : Char} (digit : Text.isDigit d = true) (cs : List Char) :
    ∃ a n, number? (d :: cs) = some (a, n) ∧ a ≠ .colon := by
  have minus : d ≠ '-' := ne_of_isDigit digit (by decide)
  obtain ⟨n, hn⟩ : ∃ n, integerLength? (d :: cs) = some n := by
    simp [integerLength?, minus, runLength, digit]
  rw [number?, hn]
  simp only
  split
  · refine ⟨_, _, rfl, ?_⟩
    rintro ⟨⟩
  · refine ⟨_, _, rfl, ?_⟩
    rintro ⟨⟩

/-- A digit begins a number, if it is not too long. -/
theorem rule_digit (source : String) (p : Nat) {d : Char} (digit : Text.isDigit d = true)
    (cs : List Char) : ∃ a n, rule source p (d :: cs) = .of a.isNumeral ((d :: cs).take n) a n ∧
      a ≠ .colon := by
  have other {c : Char} (hc : Text.isDigit c = false) : d ≠ c := ne_of_isDigit digit hc
  have gap : isGap d = false := by
    refine Bool.eq_false_iff.2 fun gap => ?_
    have none : Text.isDigit d = false := of_isGap (by decide) gap
    rw [none] at digit
    cases digit
  obtain ⟨a, n, number, notColon⟩ := number?_digit digit cs
  refine ⟨a, n, rule_eq_of gap ?_ ?_ p, notColon⟩
  · have marks : Block.markedOpener? (d :: cs) = none :=
      markedOpener?_eq_none (.inl ⟨other (by decide), other (by decide)⟩)
    exact delimited?_eq_none marks (stringLength?_eq_none (other (by decide)) (other (by decide)))
  · rw [simple?, placeholder?_eq_none (other (by decide)), number]
    rfl

section

variable {source source' : String} {rest' : List Char} {a : Token}

theorem ne_quote_of_simple {c : Char} (h : simple? (c :: w) = some (a, n)) :
    c ≠ '\'' ∧ c ≠ '"' := by
  constructor <;> rintro rfl
  all_goals
    rw [simple?, placeholder?_eq_none (by decide), number?_eq_none (by decide) (by decide),
      word?_eq_none (by decide)] at h
    cases h

/-- A block around an expression is closed within its text. -/
theorem body?_before {d : Char} {src : List Char}
    (body : Block.body? 3 (d :: '#' :: '{' :: w ++ rest) = some (src, n)) (hn : n ≤ w.length + 3)
    (closed : ∀ rest, Block.closing 0 0 (src ++ '}' :: rest) = some src.length) :
    Block.body? 3 (d :: '#' :: '{' :: w ++ rest') = some (src, n) := by
  obtain ⟨r, text, rfl, -⟩ := Segment.body?_eq_some [d, '#', '{'] body
  have whole : src ++ ['}'] <+: w ++ rest := by
    refine ⟨r, ?_⟩
    rw [List.append_assoc]
    exact text.symm
  have inside : src ++ ['}'] <+: w := by
    refine List.prefix_of_prefix_length_le whole (List.prefix_append w rest) ?_
    simp only [List.cons_append, List.nil_append, List.length_cons] at hn
    omega
  obtain ⟨w, rfl⟩ := inside
  simp [Block.body?, closed, Nat.add_comm 3]

/-- So is a string; a quote that starts none is no token. -/
theorem delimited?_before (ends : EndsAt keyMarks rest) (ends' : EndsAt keyMarks rest')
    (hw : w ≠ []) (taken : delimited? source (w ++ rest) = some (.token a n)) (hn : n ≤ w.length)
    (ha : a.HasTokens) : delimited? source' (w ++ rest') = some (.token a n) := by
  rw [delimited?, markedOpener?_before ends hw] at taken
  rw [delimited?, markedOpener?_before ends' hw]
  split at taken
  · next m opener =>
    obtain ⟨rfl, d, w, -, rfl⟩ := Segment.markedOpener?_eq_some opener
    split at taken
    · next src length body =>
      cases taken
      obtain ⟨ts, hts⟩ := ha _ rfl
      have closed := closed_of_tokens hts
      rw [String.toList_ofList] at closed
      rw [body?_before body hn closed]
    · cases taken
  · obtain ⟨m, string, found⟩ := Option.map_eq_some_iff.1 taken
    split at found
    · next s content =>
      cases found
      have within := stringLength?_of_append string hn
      rw [List.take_append_of_le_length hn] at content
      rw [(stringLength?_append within rest').2.2, Option.map_some,
        List.take_append_of_le_length hn, unescape_within 0 _ source' source, content]
      rfl
    · cases found

theorem markedOpener?_of_delimited {cs : List Char} (h : delimited? source cs = none) :
    Block.markedOpener? cs = none := by
  rw [delimited?] at h
  split at h
  · split at h <;> cases h
  · assumption

/-- A token that ends in front of a word is taken in front of another one, too. -/
theorem rule_before {p p' : Nat} (ends : EndsAt keyMarks rest) (ends' : EndsAt keyMarks rest')
    (hw : w ≠ []) (taken : rule source p (w ++ rest) = .token a n) (hn : n ≤ w.length)
    (ha : a.HasTokens) : rule source' p' (w ++ rest') = .token a n := by
  have delimited (found : delimited? source (w ++ rest) = some (.token a n)) :
      delimited? source' (w ++ rest') = some (.token a n) :=
    delimited?_before ends ends' hw found hn ha
  have simple := (simple?_before ends hw).trans (simple?_before ends' hw).symm
  have opener := (markedOpener?_before ends hw).trans (markedOpener?_before ends' hw).symm
  obtain ⟨c, w, rfl⟩ := List.exists_cons_of_ne_nil hw
  simp only [List.cons_append] at taken delimited simple opener ⊢
  rw [rule] at taken
  split at taken
  · cases taken
  · next gap =>
    rw [Bool.not_eq_true] at gap
    split at taken
    · next l found =>
      subst taken
      rw [rule, gap, delimited found]
      rfl
    · next found =>
      split at taken
      · next b m found' =>
        obtain ⟨rfl, rfl, readable⟩ := Lexeme.of_eq_token taken
        rw [simple] at found'
        obtain ⟨single, double⟩ := ne_quote_of_simple found'
        have noOpener := opener.symm.trans (markedOpener?_of_delimited found)
        have noString : stringLength? (c :: (w ++ rest')) = none :=
          stringLength?_eq_none single double
        rw [← List.cons_append, List.take_append_of_le_length hn] at readable
        refine rule_eq_token gap (delimited?_eq_none noOpener noString) found' ?_ p'
        rw [← List.cons_append, List.take_append_of_le_length hn]
        exact readable
      · cases taken

/-- The tokens in front of a word are those in front of another one. -/
theorem scanFrom_before (ends : EndsAt keyMarks rest) (ends' : EndsAt keyMarks rest')
    {pending p : Nat} {ts us : List (Placed Token)}
    (h : (scanFrom (rule source) pending p (w ++ rest)).tokens = ts ++ ⟨a, p + w.length⟩ :: us)
    (hts : ∀ t ∈ ts, t.token.HasTokens) : scanFrom (rule source') pending p (w ++ rest')
      = ts.foldr cons (scanFrom (rule source') 0 (p + w.length) rest') := by
  -- The token that follows stands behind the text in front, so each token in front ends within it.
  induction w generalizing pending p ts with
  | nil =>
    obtain rfl : pending = 0 := by simpa using le_of_tokens h
    cases ts with
    | nil => rfl
    | cons t ts =>
      have := lt_position h ⟨a, p⟩ (List.mem_append_right _ List.mem_cons_self)
      exact absurd this (lt_irrefl p)
  | cons c w ih =>
    rw [List.length_cons, Nat.add_comm w.length, ← Nat.add_assoc] at h ⊢
    cases pending with
    | succ k => exact ih h hts
    | zero =>
      rw [List.cons_append, scanFrom] at h ⊢
      split at h
      · next b n taken =>
        cases ts with
        | nil =>
          obtain ⟨same, -⟩ := List.cons.inj h
          have : p = p + 1 + w.length := congrArg Placed.position same
          omega
        | cons t ts =>
          obtain ⟨rfl, behind⟩ : ⟨b, p⟩ = t ∧
            (scanFrom (rule source) (n - 1) (p + 1) (w ++ rest)).tokens
              = ts ++ ⟨a, p + 1 + w.length⟩ :: us := List.cons.inj h
          obtain ⟨hb, hts⟩ := List.forall_mem_cons.1 hts
          have length : n ≤ (c :: w).length := by
            have := le_of_tokens behind
            rw [List.length_cons]
            omega
          have taken' : rule source' p (c :: (w ++ rest')) = .token b n :=
            rule_before ends ends' (List.cons_ne_nil c w) taken length hb
          rw [taken', List.foldr_cons, ← ih behind hts]
      · next skipped =>
        rw [rule_gap p c _ (isGap_of_rule skipped)]
        exact ih h hts
      · cases ts <;> cases h
      · cases ts <;> cases h

end

end Template.Token

/-! ### Exchange -/

namespace Template

variable {u v w w' : List Char} {a a' : Token} {ts us : List (Placed Token)}

/-- A text behind a word is made of tokens by itself, and they are those behind the word. -/
theorem tokens_behind {source : String} {p : Nat}
    (tokens : (scanFrom (Token.rule source) 0 p v).result source = .ok us) :
    ∃ vs, Token.tokens (String.ofList v) = .ok vs ∧ us = vs.map (Placed.shift p) := by
  rw [← Nat.zero_add p, scanFrom_within (Token.rule_within p source (String.ofList v)),
    result_within _ (String.ofList v)] at tokens
  rw [Token.tokens, Token.scan, String.toList_ofList]
  cases h : (scanFrom (Token.rule (String.ofList v)) 0 0 v).result (String.ofList v) with
  | error f =>
    rw [h] at tokens
    cases tokens
  | ok vs =>
    rw [h] at tokens
    exact ⟨vs, rfl, (Except.ok.inj tokens).symm⟩

section

variable {source : String} (text : source.toList = u ++ (w ++ v))
  (tokens : Token.tokens source = .ok (ts ++ ⟨a, u.length⟩ :: us))
  (hts : ∀ t ∈ ts, t.token.HasTokens) (ends : EndsAt keyMarks (w ++ v))
include text tokens hts ends

/-- The text in front of a word gives the tokens in front of it, whichever word it is. -/
theorem scanFrom_front (source' : String) {rest : List Char} (ends' : EndsAt keyMarks rest) :
    scanFrom (Token.rule source') 0 0 (u ++ rest)
      = ts.foldr cons (scanFrom (Token.rule source') 0 u.length rest) := by
  have scanned := (result_eq_ok.1 tokens).2
  rw [Token.scan, text, ← Nat.zero_add u.length] at scanned
  have front : scanFrom (Token.rule source') 0 0 (u ++ rest)
      = ts.foldr cons (scanFrom (Token.rule source') 0 (0 + u.length) rest) :=
    Token.scanFrom_before ends ends' scanned hts
  rwa [Nat.zero_add] at front

theorem result_behind (hw : w ≠ [])
    (word : Token.rule source u.length (w ++ v) = .token a w.length) :
    (scanFrom (Token.rule source) 0 (u.length + w.length) v).result source = .ok us := by
  have front := scanFrom_front text tokens hts ends source ends
  rw [Token.tokens, Token.scan, text, front, scanFrom_word hw word, result_foldr_cons, result_cons]
    at tokens
  cases h : (scanFrom (Token.rule source) 0 (u.length + w.length) v).result source with
  | error f =>
    rw [h] at tokens
    cases tokens
  | ok vs =>
    rw [h] at tokens
    have same := List.append_cancel_left (Except.ok.inj tokens)
    rw [(List.cons.inj same).2]

/-- One word may take the place of another, and all other tokens of the text stay. -/
theorem tokens_exchange (hw : w ≠ [])
    (word : Token.rule source u.length (w ++ v) = .token a w.length)
    (ends' : EndsAt keyMarks (w' ++ v)) (hw' : w' ≠ [])
    (word' : ∀ source p, Token.rule source p (w' ++ v) = .token a' w'.length) :
    ∃ us', us'.map (·.token) = us.map (·.token) ∧
      Token.tokens (String.ofList (u ++ w' ++ v)) = .ok (ts ++ ⟨a', u.length⟩ :: us') := by
  have front (source' : String) := scanFrom_front text tokens hts ends source' ends'
  obtain ⟨vs, hvs, rfl⟩ := tokens_behind (result_behind text tokens hts ends hw word)
  refine ⟨_, ?_, tokens_between front hw' word' hvs⟩
  rw [List.map_map, List.map_map]
  rfl

/-- Where a colon comes next, no digit does, even behind blanks. -/
theorem noDigit_of_colon (hw : w ≠ [])
    (word : Token.rule source u.length (w ++ v) = .token a w.length)
    {vs : List Token} (colon : us.map (·.token) = .colon :: vs) :
    ∀ d ∈ v.head?, Text.isDigit d = false := by
  obtain ⟨complete, behind⟩ := result_eq_ok.1 (result_behind text tokens hts ends hw word)
  intro d hd
  obtain ⟨v, rfl⟩ := List.head?_eq_some_iff.1 hd
  refine Bool.eq_false_iff.2 fun digit => ?_
  obtain ⟨b, n, number, notColon⟩ := Token.rule_digit source (u.length + w.length) digit v
  rcases Lexeme.of_cases b.isNumeral ((d :: v).take n) b n with ⟨found, -⟩ | ⟨found, -⟩
  · rw [scanFrom, number, found] at behind
    rw [← behind] at colon
    exact notColon (List.cons.inj colon).1
  · rw [scanFrom, number, found] at complete
    cases complete

end

end Template

end LinkedDocs
