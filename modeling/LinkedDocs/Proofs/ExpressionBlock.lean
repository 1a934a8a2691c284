import LinkedDocs.Proofs.Lexemes
import LinkedDocs.Proofs.Scanning
import LinkedDocs.Template.Block
import LinkedDocs.Expr.Token

/-! Blocks around expressions.

    A block is closed without reading the expression in it: only quoted strings and braces are
    looked at. No token of the expression language has a brace or a quote in it, strings apart, and
    a string is as long for the one scan as for the other. So the block around a text that is made
    of tokens ends just behind that text, whatever comes next. -/

namespace LinkedDocs

open Scan

namespace Template.Block

/-- A character that neither opens nor closes anything in a block. -/
def IsOrdinary (c : Char) : Prop := c ≠ '\'' ∧ c ≠ '"' ∧ c ≠ '{' ∧ c ≠ '}'

instance : DecidablePred IsOrdinary := fun c =>
  inferInstanceAs (Decidable (c ≠ '\'' ∧ c ≠ '"' ∧ c ≠ '{' ∧ c ≠ '}'))

/-- The first character, if it starts no string. -/
theorem closing_cons {c : Char} {cs : List Char} (h : stringLength? (c :: cs) = none) (depth : Nat) :
    closing 0 depth (c :: cs) =
      if c = '{' then (closing 0 (depth + 1) cs).map (· + 1)
      else if c = '}' then
        match depth with
        | 0 => some 0
        | depth + 1 => (closing 0 depth cs).map (· + 1)
      else (closing 0 depth cs).map (· + 1) := by
  cases depth <;> rw [closing.eq_def] <;> simp only [h]

theorem closing_pending (w cs : List Char) (depth : Nat) :
    closing w.length depth (w ++ cs) = (closing 0 depth cs).map (· + w.length) := by
  induction w with
  | nil => simp
  | cons c w ih =>
    rw [List.cons_append, List.length_cons, closing, ih, Option.map_map]
    rfl

/-- Ordinary characters are passed over. -/
theorem closing_ordinary {w : List Char} (hw : ∀ c ∈ w, IsOrdinary c) (cs : List Char)
    (depth : Nat) : closing 0 depth (w ++ cs) = (closing 0 depth cs).map (· + w.length) := by
  induction w with
  | nil => simp
  | cons c w ih =>
    obtain ⟨single, double, opener, closer⟩ := hw c List.mem_cons_self
    have noString : stringLength? (c :: (w ++ cs)) = none := by simp [stringLength?, single, double]
    rw [List.cons_append, closing_cons noString, if_neg opener, if_neg closer]
    rw [ih fun d hd => hw d (List.mem_cons_of_mem c hd), Option.map_map]
    rfl

/-- A string is passed over. -/
theorem closing_string {cs : List Char} {n : Nat} (h : stringLength? cs = some n)
    (rest : List Char) (depth : Nat) :
    closing 0 depth (cs ++ rest) = (closing 0 depth (cs.drop n ++ rest)).map (· + n) := by
  obtain ⟨hpos, hle, happ⟩ := stringLength?_append h rest
  cases cs with
  | nil => cases h
  | cons c cs =>
    obtain ⟨m, rfl⟩ := Nat.exists_eq_add_of_le' (Nat.le_of_succ_le hpos)
    have split : cs ++ rest = cs.take m ++ (cs.drop m ++ rest) := by
      rw [← List.append_assoc, List.take_append_drop]
    have length : (cs.take m).length = m := by
      rw [List.length_take]
      simp only [List.length_cons] at hle
      omega
    rw [List.cons_append] at happ
    rw [List.cons_append, closing.eq_def]
    simp only [happ, Nat.add_sub_cancel, List.drop_succ_cons]
    have pending := closing_pending (cs.take m) (cs.drop m ++ rest) depth
    rw [length, ← split] at pending
    rw [pending, Option.map_map]
    rfl

/-- A block ends in front of a brace. -/
theorem closing_brace {pending depth n : Nat} {cs : List Char}
    (h : closing pending depth cs = some n) : ∃ src rest, cs = src ++ '}' :: rest ∧ src.length = n := by
  have further {pending depth : Nat} {c : Char} {cs : List Char} {n : Nat}
      (ih : ∀ {n}, closing pending depth cs = some n →
        ∃ src rest, cs = src ++ '}' :: rest ∧ src.length = n)
      (h : (closing pending depth cs).map (· + 1) = some n) :
      ∃ src rest, c :: cs = src ++ '}' :: rest ∧ src.length = n := by
    obtain ⟨m, hm, rfl⟩ := Option.map_eq_some_iff.1 h
    obtain ⟨src, rest, rfl, rfl⟩ := ih hm
    exact ⟨c :: src, rest, rfl, rfl⟩
  fun_induction closing pending depth cs generalizing n with
  | case1 => cases h
  | case2 _ _ _ _ ih => exact further ih h
  | case3 _ _ _ _ _ ih => exact further ih h
  | case4 _ _ _ ih => exact further ih h
  | case5 cs =>
    cases h
    exact ⟨[], cs, rfl, rfl⟩
  | case6 _ _ _ _ ih => exact further ih h
  | case7 _ _ _ _ _ _ ih => exact further ih h

end Template.Block

namespace Expr.Token

open Template.Block

theorem isOrdinary_of_isNumeric {c : Char} (h : IsNumeric c) : IsOrdinary c := by
  rcases h with rfl | rfl | h
  · decide
  · decide
  · have := bounds_of_isDigit h
    refine ⟨?_, ?_, ?_, ?_⟩ <;> rintro rfl <;> simp at this

theorem isOrdinary_of_isNameChar {c : Char} (h : isNameChar c = true) : IsOrdinary c := by
  refine ⟨?_, ?_, ?_, ?_⟩ <;> rintro rfl <;> revert h <;> decide

theorem isNameChar_of_isNameStart {c : Char} (h : isNameStart c = true) : isNameChar c = true := by
  rw [isNameStart, Bool.or_eq_true] at h
  rw [isNameChar, Bool.or_eq_true, Bool.or_eq_true]
  rcases h with h | h
  · exact .inl (.inl h)
  · exact .inr h

theorem isNameChar_of_isVariableChar {c : Char} (h : isVariableChar c = true) :
    isNameChar c = true := by
  rw [isNameChar, ← isVariableChar, h, Bool.true_or]

/-- The first `n` characters of a text are there, and all of them are ordinary. -/
def OrdinaryStart (cs : List Char) (n : Nat) : Prop :=
  1 ≤ n ∧ n ≤ cs.length ∧ ∀ c ∈ cs.take n, IsOrdinary c

theorem OrdinaryStart.one {c : Char} {cs : List Char} (h : IsOrdinary c) :
    OrdinaryStart (c :: cs) 1 := by
  refine ⟨le_rfl, by simp, ?_⟩
  intro d hd
  rw [List.mem_singleton.1 hd]
  exact h

theorem OrdinaryStart.cons {c : Char} {cs : List Char} {n : Nat} (h : IsOrdinary c)
    (hle : n ≤ cs.length) (hcs : ∀ d ∈ cs.take n, IsOrdinary d) :
    OrdinaryStart (c :: cs) (n + 1) := by
  refine ⟨by omega, by simpa using hle, ?_⟩
  intro d hd
  rcases List.mem_cons.1 hd with rfl | hd
  · exact h
  · exact hcs d hd

variable {cs : List Char} {t : Token} {n : Nat}

theorem ordinary_hashName? (h : hashName? cs = some (t, n)) : OrdinaryStart cs n := by
  unfold hashName? at h
  split at h
  · next c cs =>
    split at h
    · next hc =>
      cases h
      refine .cons (by decide) (by simpa using runLength_le _ cs) ?_
      have letter : IsOrdinary c := isOrdinary_of_isNameChar (by simp [isNameChar, hc])
      refine (OrdinaryStart.cons letter (runLength_le _ cs) ?_).2.2
      intro d hd
      exact isOrdinary_of_isNameChar (isNameChar_of_isVariableChar (of_mem_run hd))
    · cases h
  · cases h

theorem ordinary_number? (h : number? cs = some (t, n)) : OrdinaryStart cs n := by
  unfold number? at h
  split at h
  · cases h
  · next m hm =>
    obtain ⟨hpos, hle, hint⟩ := integerLength?_spec hm
    split at h
    · next k hk =>
      obtain ⟨hle', hfrac⟩ := fractionLength?_spec hk
      rw [List.length_drop] at hle'
      cases h
      refine ⟨by omega, by omega, ?_⟩
      intro c hc
      rw [List.take_add, List.mem_append] at hc
      rcases hc with hc | hc
      · exact isOrdinary_of_isNumeric (hint c hc)
      · exact isOrdinary_of_isNumeric (hfrac c hc)
    · cases h
      exact ⟨hpos, hle, fun c hc => isOrdinary_of_isNumeric (hint c hc)⟩

theorem ordinary_word? (h : word? cs = some (t, n)) : OrdinaryStart cs n := by
  unfold word? at h
  split at h
  · next c cs =>
    split at h
    · next hc =>
      cases h
      have start := isOrdinary_of_isNameChar (isNameChar_of_isNameStart hc)
      exact .cons start (runLength_le _ cs) fun d hd => isOrdinary_of_isNameChar (of_mem_run hd)
    · cases h
  · cases h

theorem ordinary_mark? (h : mark? cs = some (t, n)) : OrdinaryStart cs n := by
  unfold mark? at h
  split at h
  · next c cs =>
    obtain ⟨t, ht, h⟩ := Option.map_eq_some_iff.1 h
    cases h
    refine .one ?_
    refine ⟨?_, ?_, ?_, ?_⟩ <;> rintro rfl <;> cases ht
  · cases h

/-- A token is a quoted string or is made of ordinary characters. -/
theorem string_or_ordinary (h : first? cs = some (t, n)) :
    stringLength? cs = some n ∨ OrdinaryStart cs n := by
  unfold first? at h
  simp only [Option.orElse_eq_orElse, Option.orElse_eq_or, Option.or_eq_some_iff] at h
  rcases h with h | ⟨-, h | ⟨-, h | ⟨-, h | ⟨-, h⟩⟩⟩⟩
  · exact .inr (ordinary_hashName? h)
  · exact .inr (ordinary_number? h)
  · obtain ⟨m, hm, h⟩ := Option.map_eq_some_iff.1 h
    cases h
    exact .inl hm
  · exact .inr (ordinary_word? h)
  · exact .inr (ordinary_mark? h)

/-- Blanks are ordinary too. -/
theorem isOrdinary_of_isGap {c : Char} (h : isGap c = true) : IsOrdinary c := by
  refine ⟨?_, ?_, ?_, ?_⟩ <;> rintro rfl <;> revert h <;> decide

theorem isGap_of_rule {source : String} {p : Nat} {c : Char}
    (h : rule source p (c :: cs) = .skip) : isGap c = true := by
  rw [rule] at h
  split at h
  · assumption
  · split at h
    · exact absurd h Lexeme.of_ne_skip
    · cases h

theorem first?_of_rule {source : String} {p : Nat} {c : Char}
    (h : rule source p (c :: cs) = .token t n) : first? (c :: cs) = some (t, n) := by
  rw [rule] at h
  split at h
  · cases h
  · split at h
    · next hf =>
      obtain ⟨rfl, rfl, -⟩ := Lexeme.of_eq_token h
      exact hf
    · cases h

/-- A block around a text that is made of tokens ends just behind the text. -/
theorem closing_of_scan {source : String} {position : Nat}
    (h : (scanFrom (rule source) 0 position cs).ending = .complete) (rest : List Char) :
    closing 0 0 (cs ++ '}' :: rest) = some cs.length := by
  -- A token is passed over as a whole, so the induction follows the scan and not the text.
  refine complete_induction (P := fun cs => closing 0 0 (cs ++ '}' :: rest) = some cs.length)
    ?_ ?_ ?_ h
  · rfl
  · intro p c cs hr ih
    have blank := closing_ordinary (w := [c]) (by simpa using isOrdinary_of_isGap (isGap_of_rule hr))
      (cs ++ '}' :: rest) 0
    rw [ih] at blank
    exact blank
  · intro p c cs a n hr ih
    have behind : 1 ≤ n → cs.drop (n - 1) = (c :: cs).drop n := by
      intro hpos
      obtain ⟨m, rfl⟩ := Nat.exists_eq_add_of_le' hpos
      rfl
    rcases string_or_ordinary (first?_of_rule hr) with hs | ⟨hpos, hle, hw⟩
    · obtain ⟨hpos, hle, -⟩ := stringLength?_append hs rest
      rw [behind (by omega)] at ih
      rw [closing_string hs, ih, List.length_drop, Option.map_some, Nat.sub_add_cancel hle]
    · rw [behind hpos] at ih
      have passed := closing_ordinary hw ((c :: cs).drop n ++ '}' :: rest) 0
      rw [ih, ← List.append_assoc, List.take_append_drop, List.length_drop, List.length_take,
        Nat.min_eq_left hle, Option.map_some, Nat.sub_add_cancel hle] at passed
      exact passed

end Expr.Token

end LinkedDocs
