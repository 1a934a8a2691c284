import LinkedDocs.Scan.Basic
import LinkedDocs.Proofs.Lexemes

/-! Scanning and reading, whatever the language.

    A reader gives a tree exactly if the whole text is made of tokens, its automaton takes them all
    and it stops in a state that is complete: then what is reported, and in which order, plays no
    role any more. What else it reports is a fault of the text, unless its scan fails otherwise: at
    a numeral that is too long. A word spells a token if the rule takes just that word for the token
    wherever a blank or the end of the text comes next, so words with blanks between them are
    scanned one by one. Where the words behind it end a word as well, no blanks are needed. -/

namespace LinkedDocs

/-! ### Numerals -/

namespace Lexeme

variable {α : Type} {isNumeral : Bool} {text : List Char} {a b : α} {m n : Nat} {f : Failure}

/-- Only a numeral has to be read. -/
theorem of_eq_self (h : isNumeral = true → Text.isReadable text = true) :
    Lexeme.of isNumeral text a n = .token a n := by
  cases isNumeral with
  | false => rfl
  | true => rw [Lexeme.of, h rfl]; rfl

theorem of_overlong (h : Text.isReadable text = false) :
    Lexeme.of true text a n = .failure (.misuse .content) := by
  rw [Lexeme.of, h]
  rfl

/-- A token is taken with its text, or a numeral is too long. -/
theorem of_cases (isNumeral : Bool) (text : List Char) (a : α) (n : Nat) :
    Lexeme.of isNumeral text a n = .token a n ∧ (isNumeral = true → Text.isReadable text = true) ∨
      Lexeme.of isNumeral text a n = .failure (.misuse .content) ∧ isNumeral = true ∧
        Text.isReadable text = false := by
  cases isNumeral with
  | false => exact .inl ⟨rfl, nofun⟩
  | true =>
    cases h : Text.isReadable text with
    | true => exact .inl ⟨of_eq_self fun _ => h, fun _ => rfl⟩
    | false => exact .inr ⟨of_overlong h, rfl, rfl⟩

theorem of_eq_token (h : Lexeme.of isNumeral text a n = .token b m) :
    a = b ∧ n = m ∧ (isNumeral = true → Text.isReadable text = true) := by
  rcases of_cases isNumeral text a n with ⟨hof, readable⟩ | ⟨hof, -⟩
  · obtain ⟨rfl, rfl⟩ := Lexeme.token.inj (hof.symm.trans h)
    exact ⟨rfl, rfl, readable⟩
  · cases hof.symm.trans h

theorem of_eq_failure (h : Lexeme.of isNumeral text a n = .failure f) :
    f = .misuse .content ∧ isNumeral = true ∧ Text.isReadable text = false := by
  rcases of_cases isNumeral text a n with ⟨hof, -⟩ | ⟨hof, long⟩
  · cases hof.symm.trans h
  · exact ⟨(Lexeme.failure.inj (hof.symm.trans h)).symm, long⟩

theorem of_ne_skip : Lexeme.of isNumeral text a n ≠ .skip := by
  intro h
  rcases of_cases isNumeral text a n with ⟨hof, -⟩ | ⟨hof, -⟩ <;> cases hof.symm.trans h

theorem of_ne_openBlock : Lexeme.of isNumeral text a n ≠ .openBlock := by
  intro h
  rcases of_cases isNumeral text a n with ⟨hof, -⟩ | ⟨hof, -⟩ <;> cases hof.symm.trans h

/-- A token is taken, unless it is one of those that a scan stops at. -/
def stopping (stops : α → Bool) (f : Failure) (a : α) (length : Nat) : Lexeme α :=
  if stops a then .failure f else .token a length

theorem stopping_eq_token {stops : α → Bool} (h : stops a = false) :
    stopping stops f a n = .token a n := by
  rw [stopping, h]
  rfl

end Lexeme

namespace Scan

variable {α σ τ : Type} {rule : Nat → List Char → Lexeme α} {source : String}

/-! ### Reading -/

theorem result_eq_ok {sc : Scan α} {ts : List (Placed α)} :
    sc.result source = .ok ts ↔ sc.ending = .complete ∧ sc.tokens = ts := by
  unfold result
  cases sc.ending <;> simp

theorem Reader.run_eq_ok (r : Reader α σ τ) (source : String) {ts : List (Placed α)} {s s' : σ} :
    r.run source s ts = .ok s' ↔ (ts.map (·.token)).foldlM r.step s = some s' := by
  induction ts generalizing s with
  | nil => simp [Reader.run]
  | cons t ts ih =>
    rw [Reader.run, List.map_cons, List.foldlM_cons]
    cases h : r.step s t.token with
    | none => simp
    | some s₁ => exact ih

theorem Reader.run_eq_error (r : Reader α σ τ) (source : String) {ts : List (Placed α)} {s : σ}
    {f : Failure} (h : r.run source s ts = .error f) : ∃ e, f = .expression e := by
  induction ts generalizing s with
  | nil => cases h
  | cons t ts ih =>
    rw [Reader.run] at h
    split at h
    · exact ih h
    · cases h
      exact ⟨_, rfl⟩

/-- A tree is read exactly if nothing is wrong with the scan and the automaton takes its tokens. -/
theorem Reader.read_eq_ok (r : Reader α σ τ) {sc : Scan α} {t : τ} :
    r.read source sc = .ok t ↔ ∃ ts s, sc.result source = .ok ts ∧
      (ts.map (·.token)).foldlM r.step r.start = some s ∧ r.finish s = some t := by
  unfold Reader.read result
  cases h : r.run source r.start sc.tokens with
  | error f =>
    have stuck : ∀ s, (sc.tokens.map (·.token)).foldlM r.step r.start ≠ some s := by
      intro s hs
      rw [← r.run_eq_ok source, h] at hs
      cases hs
    cases sc.ending <;> simp [stuck, bind, Except.bind]
  | ok s =>
    have reached := (r.run_eq_ok source).1 h
    cases sc.ending <;> cases hf : r.finish s <;> simp [reached, hf, bind, Except.bind]

/-- What is reported of a text is a fault, or what its scan fails with. -/
theorem Reader.read_eq_error (r : Reader α σ τ) {sc : Scan α} {f : Failure}
    (h : r.read source sc = .error f) : (∃ e, f = .expression e) ∨ sc.ending = .failure f := by
  unfold Reader.read at h
  cases hrun : r.run source r.start sc.tokens with
  | error f' =>
    rw [hrun] at h
    cases h
    exact .inl (r.run_eq_error source hrun)
  | ok s =>
    rw [hrun] at h
    cases hend : sc.ending with
    | failure f' =>
      rw [hend] at h
      cases h
      exact .inr rfl
    | complete =>
      cases hf : r.finish s <;> simp only [hend, hf, bind, Except.bind] at h <;> cases h
      exact .inl ⟨_, rfl⟩
    | openBlock p =>
      cases hf : r.finish s <;> simp only [hend, hf, bind, Except.bind] at h <;> cases h
      · exact .inl ⟨_, rfl⟩
      · exact .inl ⟨_, rfl⟩

/-- Behind tokens that the automaton takes, what the scan fails with is reported. -/
theorem Reader.read_of_failure (r : Reader α σ τ) {sc : Scan α} {f : Failure} {s : σ}
    (hend : sc.ending = .failure f) (hrun : (sc.tokens.map (·.token)).foldlM r.step r.start = some s) :
    r.read source sc = .error f := by
  rw [Reader.read, (r.run_eq_ok source).2 hrun, hend]
  rfl

/-! ### Scanning -/

/-- What a scan fails with is what its rule fails with somewhere. -/
theorem failure_of_scanFrom {pending position : Nat} {cs : List Char} {f : Failure}
    (h : (scanFrom rule pending position cs).ending = .failure f) :
    ∃ p u, u <:+ cs ∧ rule p u = .failure f := by
  induction cs generalizing pending position with
  | nil => cases pending <;> cases h
  | cons c cs ih =>
    have behind {pending position : Nat}
        (h : (scanFrom rule pending position cs).ending = .failure f) :
        ∃ p u, u <:+ c :: cs ∧ rule p u = .failure f := by
      obtain ⟨p, u, hu, hrule⟩ := ih h
      exact ⟨p, u, hu.trans (List.suffix_cons c cs), hrule⟩
    cases pending with
    | succ n => exact behind h
    | zero =>
      rw [scanFrom] at h
      split at h
      · exact behind h
      · exact behind h
      · next f' hf =>
        cases h
        exact ⟨_, _, List.suffix_rfl, hf⟩
      · cases h

/-- A text is read, or it is reported with a fault of the language, or its tokens end at a numeral
    that is too long. -/
theorem Reader.read_cases (r : Reader α σ τ) (source : String)
    (hrule : ∀ {p cs f}, rule p cs = .failure f →
      (∃ e, f = .expression e) ∨ f = .misuse .content ∧ HasOverlong cs) :
    (∃ t, r.read source (scanFrom rule 0 0 source.toList) = .ok t) ∨
      (∃ e, r.read source (scanFrom rule 0 0 source.toList) = .error (.expression e)) ∨
      r.read source (scanFrom rule 0 0 source.toList) = .error (.misuse .content) ∧
        (scanFrom rule 0 0 source.toList).result source = .error (.misuse .content) ∧
        HasOverlong source.toList := by
  cases h : r.read source (scanFrom rule 0 0 source.toList) with
  | ok t => exact .inl ⟨t, rfl⟩
  | error f =>
    rcases Reader.read_eq_error r h with ⟨e, rfl⟩ | hend
    · exact .inr (.inl ⟨e, rfl⟩)
    · obtain ⟨p, u, hu, failing⟩ := failure_of_scanFrom hend
      rcases hrule failing with ⟨e, rfl⟩ | ⟨rfl, long⟩
      · exact .inr (.inl ⟨e, rfl⟩)
      · refine .inr (.inr ⟨rfl, ?_, long.within hu.isInfix⟩)
        rw [result, hend]

/-- A scan that fails at the front of a text has no tokens. -/
theorem scanFrom_failure {cs : List Char} {position : Nat} {f : Failure} (hcs : cs ≠ [])
    (h : rule position cs = .failure f) : scanFrom rule 0 position cs = ⟨[], .failure f⟩ := by
  obtain ⟨c, cs, rfl⟩ := List.exists_cons_of_ne_nil hcs
  rw [scanFrom, h]

/-- The characters of a token that was taken are passed over. -/
theorem scanFrom_append (w cs : List Char) (position : Nat) :
    scanFrom rule w.length position (w ++ cs) = scanFrom rule 0 (position + w.length) cs := by
  induction w generalizing position with
  | nil => rfl
  | cons c w ih =>
    rw [List.cons_append, List.length_cons, scanFrom, ih, Nat.add_assoc, Nat.add_comm 1]

/-- A word that the rule takes is passed over as a whole, and the scan goes on behind it. -/
theorem scanFrom_word {w rest : List Char} {a : α} {position : Nat} (hw : w ≠ [])
    (h : rule position (w ++ rest) = .token a w.length) : scanFrom rule 0 position (w ++ rest)
      = cons ⟨a, position⟩ (scanFrom rule 0 (position + w.length) rest) := by
  obtain ⟨c, w, rfl⟩ := List.exists_cons_of_ne_nil hw
  rw [List.cons_append] at h
  rw [List.cons_append, scanFrom, h]
  simp only [List.length_cons, Nat.add_sub_cancel]
  rw [scanFrom_append, Nat.add_assoc, Nat.add_comm 1]

/-- A scan is complete if its rule takes or skips something wherever it may be asked. -/
theorem scanFrom_complete {pending position : Nat} {cs : List Char}
    (h : ∀ p u c v, cs = u ++ c :: v →
      (∃ a n, rule p (c :: v) = .token a n) ∨ rule p (c :: v) = .skip) :
    (scanFrom rule pending position cs).ending = .complete := by
  induction cs generalizing pending position with
  | nil => cases pending <;> rfl
  | cons c cs ih =>
    have behind {pending position : Nat} : (scanFrom rule pending position cs).ending = .complete :=
      ih fun p u d v heq => h p (c :: u) d v (by rw [heq]; rfl)
    cases pending with
    | succ n => exact behind
    | zero =>
      rw [scanFrom]
      rcases h position [] c cs rfl with ⟨a, n, hrule⟩ | hrule <;> rw [hrule] <;> exact behind

/-- Induction on the scan of a text that is made of tokens, together with its tokens. -/
theorem scan_induction {P : List Char → List α → Prop} (nil : P [] [])
    (skip : ∀ p c cs ts, rule p (c :: cs) = .skip → P cs ts → P (c :: cs) ts)
    (token : ∀ p c cs ts a n, rule p (c :: cs) = .token a n → P (cs.drop (n - 1)) ts →
      P (c :: cs) (a :: ts))
    {pending position : Nat} {cs : List Char}
    (h : (scanFrom rule pending position cs).ending = .complete) :
    P (cs.drop pending) ((scanFrom rule pending position cs).tokens.map (·.token)) := by
  induction cs generalizing pending position with
  | nil => cases pending <;> exact nil
  | cons c cs ih =>
    cases pending with
    | succ n => exact ih h
    | zero =>
      rw [scanFrom] at h ⊢
      split at h
      · next a n hr => exact token position c cs _ a n hr (ih h)
      · next hr => exact skip position c cs _ hr (ih h)
      · cases h
      · cases h

/-- Induction on the scan of a text that is made of tokens. -/
theorem complete_induction {P : List Char → Prop} (nil : P [])
    (skip : ∀ p c cs, rule p (c :: cs) = .skip → P cs → P (c :: cs))
    (token : ∀ p c cs a n, rule p (c :: cs) = .token a n → P (cs.drop (n - 1)) → P (c :: cs))
    {pending position : Nat} {cs : List Char}
    (h : (scanFrom rule pending position cs).ending = .complete) : P (cs.drop pending) :=
  scan_induction (P := fun cs _ => P cs) nil (fun p c cs _ => skip p c cs)
    (fun p c cs _ => token p c cs) h

/-- Induction on the scan of a text up to where it stops. -/
theorem stop_induction {P : Nat → List Char → Prop} {e : ScanEnd} (he : e ≠ .complete)
    (opens : ∀ p c cs, rule p (c :: cs) = .openBlock → e = .openBlock p → P p (c :: cs))
    (fails : ∀ p c cs f, rule p (c :: cs) = .failure f → e = .failure f → P p (c :: cs))
    (skip : ∀ p c cs, rule p (c :: cs) = .skip → P (p + 1) cs → P p (c :: cs))
    (token : ∀ p c cs a n, rule p (c :: cs) = .token a n →
      P (p + 1 + (n - 1)) (cs.drop (n - 1)) → P p (c :: cs))
    {pending position : Nat} {cs : List Char}
    (h : (scanFrom rule pending position cs).ending = e) :
    P (position + pending) (cs.drop pending) := by
  induction cs generalizing pending position with
  | nil => cases pending <;> exact absurd h.symm he
  | cons c cs ih =>
    cases pending with
    | succ n =>
      rw [Nat.add_comm n, ← Nat.add_assoc, Nat.add_comm 1, List.drop_succ_cons]
      exact ih h
    | zero =>
      rw [scanFrom] at h
      split at h
      · next a n hr => exact token position c cs a n hr (ih h)
      · next hr => exact skip position c cs hr (ih h)
      · next f hr => exact fails position c cs f hr h.symm
      · next hr => exact opens position c cs hr h.symm

/-! ### Words with blanks between them -/

/-- The text is over, or a blank comes next. -/
def AtGap (rest : List Char) : Prop := ∀ c ∈ rest.head?, isGap c = true

/-- A word is taken for a token wherever a blank or the end of the text comes next. -/
def Spells (rule : Nat → List Char → Lexeme α) (w : List Char) (a : α) : Prop :=
  w ≠ [] ∧ ∀ position rest, AtGap rest → rule position (w ++ rest) = .token a w.length

/-- A text is made of words, with one blank or more between any two of them and perhaps some
    around them. -/
inductive Spaced : List (List Char) → List Char → Prop
  | nil : Spaced [] []
  | last (w : List Char) : Spaced [w] w
  | blank {ws : List (List Char)} {c : Char} {cs : List Char} (hc : isGap c = true)
    (h : Spaced ws cs) : Spaced ws (c :: cs)
  | word (w : List Char) {ws : List (List Char)} {c : Char} {cs : List Char} (hc : isGap c = true)
    (h : Spaced ws cs) : Spaced (w :: ws) (w ++ c :: cs)

theorem atGap_nil : AtGap [] := by
  intro c hc
  cases hc

theorem atGap_cons {c : Char} {cs : List Char} (h : isGap c = true) : AtGap (c :: cs) := by
  intro d hd
  cases hd
  exact h

/-- A word in front is taken, and the scan goes on behind it. -/
theorem Spells.scanFrom {w rest : List Char} {a : α} (h : Spells rule w a) (hrest : AtGap rest)
    (position : Nat) : scanFrom rule 0 position (w ++ rest)
      = cons ⟨a, position⟩ (scanFrom rule 0 (position + w.length) rest) :=
  scanFrom_word h.1 (h.2 position rest hrest)

/-- Words with blanks between them are scanned to the tokens they spell. -/
theorem Spaced.scanFrom (skips : ∀ p c cs, isGap c = true → rule p (c :: cs) = .skip)
    {ws : List (List Char)} {cs : List Char} (h : Spaced ws cs) {ts : List α}
    (spells : List.Forall₂ (Spells rule) ws ts) (position : Nat) :
    (scanFrom rule 0 position cs).ending = .complete ∧
      (scanFrom rule 0 position cs).tokens.map (·.token) = ts := by
  induction h generalizing ts position with
  | nil =>
    cases spells
    exact ⟨rfl, rfl⟩
  | last w =>
    obtain ⟨a, as, hw, has, rfl⟩ := List.forall₂_cons_left_iff.1 spells
    rw [List.forall₂_nil_left_iff.1 has]
    have hscan := hw.scanFrom atGap_nil position
    rw [List.append_nil] at hscan
    rw [hscan]
    exact ⟨rfl, rfl⟩
  | blank hc _ ih =>
    rw [Scan.scanFrom, skips _ _ _ hc]
    exact ih spells _
  | word w hc _ ih =>
    cases spells with
    | cons hw hws =>
      rw [hw.scanFrom (atGap_cons hc), Scan.scanFrom, skips _ _ _ hc]
      obtain ⟨he, ht⟩ := ih hws (position + w.length + 1)
      exact ⟨he, by rw [cons, List.map_cons, ht]⟩

/-! ### Words with blanks or nothing between them -/

/-- A text is made of words, with blanks as one likes, or none, between and around them. -/
inductive Laid : List (List Char) → List Char → Prop
  | nil : Laid [] []
  | blank {ws : List (List Char)} {c : Char} {cs : List Char} (hc : isGap c = true)
    (h : Laid ws cs) : Laid ws (c :: cs)
  | word (w : List Char) {ws : List (List Char)} {cs : List Char} (h : Laid ws cs) :
    Laid (w :: ws) (w ++ cs)

/-- The rule finds in each word what it makes of its token, however the words behind it are laid
    out. -/
inductive Reads (rule : Nat → List Char → Lexeme α) (found : α → Nat → Lexeme α) :
    List (List Char) → List α → Prop
  | nil : Reads rule found [] []
  | cons {w : List Char} {a : α} {ws : List (List Char)} {ts : List α} (hw : w ≠ [])
    (h : ∀ cs, Laid ws cs → ∀ position, rule position (w ++ cs) = found a w.length)
    (hs : Reads rule found ws ts) : Reads rule found (w :: ws) (a :: ts)

/-- The text is over, or a blank or one of the marks comes next. -/
def EndsAt (marks rest : List Char) : Prop := ∀ c ∈ rest.head?, isGap c = true ∨ c ∈ marks

theorem EndsAt.mono {marks marks' rest : List Char} (h : EndsAt marks rest)
    (hm : ∀ c ∈ marks, c ∈ marks') : EndsAt marks' rest := fun c hc => (h c hc).imp_right (hm c)

theorem AtGap.endsAt {marks rest : List Char} (h : AtGap rest) : EndsAt marks rest :=
  fun c hc => .inl (h c hc)

/-- What neither blanks nor the marks are, the next character is not. -/
theorem EndsAt.head {marks rest : List Char} {p : Char → Bool} (h : EndsAt marks rest)
    (hp : ([' ', '\t', '\r', '\n'] ++ marks).any p = false) : ∀ c ∈ rest.head?, p c = false := by
  intro c hc
  rw [List.any_append, Bool.or_eq_false_iff] at hp
  rcases h c hc with gap | mark
  · exact of_isGap hp.1 gap
  · exact Bool.eq_false_iff.2 (List.any_eq_false.1 hp.2 c mark)

/-- Words that begin with a mark, if there are any, begin with it or with a blank once laid out. -/
theorem Laid.endsAt {marks : List Char} {ws : List (List Char)} {cs : List Char} (h : Laid ws cs)
    (hws : ∀ w ∈ ws.head?, ∃ c ∈ marks, w.head? = some c) : EndsAt marks cs := by
  cases h with
  | nil => exact atGap_nil.endsAt
  | blank hc _ => exact (atGap_cons hc).endsAt
  | word w _ =>
    obtain ⟨c, hc, hw⟩ := hws w rfl
    obtain ⟨w, rfl⟩ := List.head?_eq_some_iff.1 hw
    rintro d ⟨⟩
    exact .inr hc

/-- The next character is a blank or the one that the first word begins with. -/
theorem Laid.endsAt_word {c : Char} {w cs : List Char} {ws : List (List Char)}
    (h : Laid ((c :: w) :: ws) cs) : EndsAt [c] cs := by
  refine h.endsAt ?_
  rintro x ⟨⟩
  exact ⟨c, List.mem_singleton_self c, rfl⟩

/-- Words in which tokens are found in front of any words that end the last of them once they are
    laid out. -/
def ScansTo (rule : Nat → List Char → Lexeme α) (found : α → Nat → Lexeme α)
    (ends : List Char → Prop) (ws : List (List Char)) (ts : List α) : Prop :=
  ∀ vs us, (∀ cs, Laid vs cs → ends cs) → Reads rule found vs us →
    Reads rule found (ws ++ vs) (ts ++ us)

namespace ScansTo

variable {found : α → Nat → Lexeme α} {ends : List Char → Prop} {w : List Char}
  {ws ws' : List (List Char)} {a : α} {ts ts' : List α}

theorem nil : ScansTo rule found ends [] [] := fun _ _ _ h => h

/-- A word that is taken wherever it is ended. -/
theorem one (hw : w ≠ [])
    (h : ∀ rest position, ends rest → rule position (w ++ rest) = found a w.length) :
    ScansTo rule found ends [w] [a] := by
  intro vs us hends hvs
  exact .cons hw (fun cs hcs position => h cs position (hends cs hcs)) hvs

/-- A word that is taken in front of the words behind it, whatever follows those. -/
theorem cons (hw : w ≠ [])
    (h : ∀ vs cs, Laid (ws ++ vs) cs → ∀ position, rule position (w ++ cs) = found a w.length)
    (hs : ScansTo rule found ends ws ts) : ScansTo rule found ends (w :: ws) (a :: ts) := by
  intro vs us hends hvs
  exact .cons hw (h vs) (hs vs us hends hvs)

/-- A word that is taken whatever comes next. -/
theorem closed (hw : w ≠ []) (h : ∀ rest position, rule position (w ++ rest) = found a w.length)
    (hs : ScansTo rule found ends ws ts) : ScansTo rule found ends (w :: ws) (a :: ts) :=
  cons hw (fun _ cs _ position => h cs position) hs

theorem append (h : ScansTo rule found ends ws ts) (h' : ScansTo rule found ends ws' ts')
    (hends : ∀ vs cs, Laid (ws' ++ vs) cs → ends cs) :
    ScansTo rule found ends (ws ++ ws') (ts ++ ts') := by
  intro vs us hvs hread
  rw [List.append_assoc, List.append_assoc]
  exact h _ _ (hends vs) (h' vs us hvs hread)

end ScansTo

/-- Words laid out in any way are scanned to the tokens they are taken for. -/
theorem Laid.scanFrom (skips : ∀ p c cs, isGap c = true → rule p (c :: cs) = .skip)
    {ws : List (List Char)} {cs : List Char} (h : Laid ws cs) {ts : List α}
    (hr : Reads rule .token ws ts) (position : Nat) :
    (scanFrom rule 0 position cs).ending = .complete ∧
      (scanFrom rule 0 position cs).tokens.map (·.token) = ts := by
  induction h generalizing ts position with
  | nil =>
    cases hr
    exact ⟨rfl, rfl⟩
  | blank hc _ ih =>
    rw [Scan.scanFrom, skips _ _ _ hc]
    exact ih hr _
  | word w h ih =>
    cases hr with
    | cons hw htoken hs =>
      rw [scanFrom_word hw (htoken _ h position)]
      obtain ⟨he, ht⟩ := ih hs (position + w.length)
      exact ⟨he, by rw [cons, List.map_cons, ht]⟩

section

variable {stops : α → Bool} {f : Failure} {ws : List (List Char)} {ts : List α} {cs : List Char}

/-- Where no token stops a scan, all are taken. -/
theorem Reads.taken (hr : Reads rule (.stopping stops f) ws ts) (go : ∀ a ∈ ts, stops a = false) :
    Reads rule .token ws ts := by
  induction hr with
  | nil => exact .nil
  | cons hw h _ ih =>
    rw [List.forall_mem_cons] at go
    refine .cons hw (fun cs hcs position => ?_) (ih go.2)
    rw [h cs hcs position, Lexeme.stopping, go.1]
    rfl

/-- A scan stops at the first token that stops it, and the tokens in front are taken. -/
theorem Laid.scanFrom_stopped (skips : ∀ p c cs, isGap c = true → rule p (c :: cs) = .skip)
    (h : Laid ws cs) (hr : Reads rule (.stopping stops f) ws ts) (stop : ∃ a ∈ ts, stops a = true)
    (position : Nat) : (Scan.scanFrom rule 0 position cs).ending = .failure f ∧
      (Scan.scanFrom rule 0 position cs).tokens.map (·.token) <+: ts := by
  induction h generalizing ts position with
  | nil =>
    cases hr
    obtain ⟨a, ha, -⟩ := stop
    cases ha
  | blank hc _ ih =>
    rw [Scan.scanFrom, skips _ _ _ hc]
    exact ih hr stop _
  | word w h ih =>
    cases hr with
    | @cons _ a _ ts hw hfound hs =>
      have found := hfound _ h position
      rw [Lexeme.stopping] at found
      cases here : stops a with
      | true =>
        rw [if_pos here] at found
        obtain ⟨c, w, rfl⟩ := List.exists_cons_of_ne_nil hw
        rw [List.cons_append] at found ⊢
        rw [Scan.scanFrom, found]
        exact ⟨rfl, List.nil_prefix⟩
      | false =>
        rw [if_neg (by rw [here]; exact Bool.false_ne_true)] at found
        have behind : ∃ b ∈ ts, stops b = true := by
          obtain ⟨b, hb, hstop⟩ := stop
          rcases List.mem_cons.1 hb with rfl | hb
          · cases here.symm.trans hstop
          · exact ⟨b, hb, hstop⟩
        rw [scanFrom_word hw found]
        obtain ⟨hend, tokens⟩ := ih hs behind (position + w.length)
        exact ⟨hend, List.prefix_cons_inj a |>.2 tokens⟩

end

end Scan

end LinkedDocs
