import LinkedDocs.Proofs.JsonText
import LinkedDocs.Proofs.TemplateWords

/-! JSON numbers as template numbers.

    A JSON number is a numeral with a fraction and an exponent in the form in which a template has
    them, so the rule takes it as a whole up to the next mark or blank. Its value is the one that
    the text has by itself: nothing in it is a blank, a separator or a word, so it is read as
    digits, a point and a power of ten, and it always has a value. An integer has as many digits as
    the numeral it is written as, so it can be read if it can be written. -/

namespace LinkedDocs.Json

open Scan Number
open Template (Token)

variable {sign ds fraction exponent w rest cs : List Char} {c : Char}

/-! ### The characters of a number -/

def digitChars : List Char := ['0', '1', '2', '3', '4', '5', '6', '7', '8', '9']

/-- The characters that a number is made of. -/
def numberChars : List Char := ['-', '+', '.', 'e', 'E'] ++ digitChars

theorem mem_digitChars (h : c.isDigit = true) : c ∈ digitChars := by
  have bounds : 48 ≤ c.toNat ∧ c.toNat ≤ 57 := by
    simpa [Char.isDigit, UInt32.le_iff_toNat_le] using h
  have codes : ∀ n, 48 ≤ n ∧ n ≤ 57 → Char.ofNat n ∈ digitChars := by
    rintro n ⟨low, high⟩
    interval_cases n <;> decide
  rw [← Char.ofNat_toNat c]
  exact codes _ bounds

/-- What holds for the ten digits holds for every digit. -/
theorem of_digit {p : Char → Bool} (h : c.isDigit = true) (hp : digitChars.all p = true) :
    p c = true := List.all_eq_true.1 hp c (mem_digitChars h)

theorem IsDigits.chars (h : IsDigits ds) : ds ⊆ numberChars :=
  fun c hc => List.mem_append_right _ (mem_digitChars (h.2 c hc))

theorem IsFraction.chars (h : IsFraction fraction) : fraction ⊆ numberChars := by
  cases h with
  | nothing => exact List.nil_subset _
  | digits h => exact List.cons_subset.2 ⟨by decide, h.chars⟩

theorem IsExponent.chars (h : IsExponent exponent) : exponent ⊆ numberChars := by
  cases h with
  | nothing => exact List.nil_subset _
  | digits hmark hsign h =>
    refine List.cons_subset.2 ⟨?_, List.append_subset.2 ⟨?_, h.chars⟩⟩
    · rcases hmark with rfl | rfl <;> decide
    · rcases hsign with rfl | rfl | rfl <;> decide

theorem IsInteger.isDigits (h : IsInteger sign ds) : IsDigits ds := ⟨h.ne_nil, h.digits⟩

theorem IsReal.chars (h : IsReal w) : w ⊆ numberChars := by
  obtain ⟨h, hf, he, -⟩ := h
  refine List.append_subset.2 ⟨List.append_subset.2 ⟨?_, h.isDigits.chars⟩,
    List.append_subset.2 ⟨hf.chars, he.chars⟩⟩
  rcases h.sign with rfl | rfl <;> decide

/-! ### What follows a part of a number -/

/-- What begins neither of two texts does not begin the two in a row. -/
theorem head_append {P : Char → Prop} {u v : List Char} (hu : ∀ c ∈ u.head?, P c)
    (hv : ∀ c ∈ v.head?, P c) : ∀ c ∈ (u ++ v).head?, P c := by
  cases u with
  | nil => exact hv
  | cons d u => exact hu

theorem IsFraction.head (h : IsFraction fraction) : ∀ c ∈ fraction.head?, c = '.' := by
  cases h with
  | nothing => nofun
  | digits => rintro c ⟨⟩; rfl

theorem IsExponent.head (h : IsExponent exponent) : ∀ c ∈ exponent.head?, c = 'e' ∨ c = 'E' := by
  cases h with
  | nothing => nofun
  | digits hmark => rintro c ⟨⟩; exact hmark

/-- No digit follows the integer part. -/
theorem digit_head (hf : IsFraction fraction) (he : IsExponent exponent)
    (hrest : ∀ c ∈ rest.head?, Text.isDigit c = false) :
    ∀ c ∈ (fraction ++ (exponent ++ rest)).head?, Text.isDigit c = false := by
  refine head_append (fun c hc => ?_) (head_append (fun c hc => ?_) hrest)
  · rw [hf.head c hc]
    decide
  · rcases he.head c hc with rfl | rfl <;> decide

theorem fractionLength?_append (hf : IsFraction fraction) (point : ∀ c ∈ rest.head?, c ≠ '.')
    (digit : ∀ c ∈ rest.head?, Text.isDigit c = false) :
    (fractionLength? (fraction ++ rest)).getD 0 = fraction.length := by
  cases hf with
  | nothing =>
    rw [List.nil_append, fractionLength?_eq_none point]
    rfl
  | digits h => simp [fractionLength?, runLength_digits h.2 digit, h.1]

theorem exponentLength?_append (he : IsExponent exponent)
    (mark : ∀ c ∈ rest.head?, ¬(c = 'e' ∨ c = 'E'))
    (digit : ∀ c ∈ rest.head?, Text.isDigit c = false) :
    (exponentLength? (exponent ++ rest)).getD 0 = exponent.length := by
  cases he with
  | nothing =>
    rw [List.nil_append, exponentLength?_eq_none mark]
    rfl
  | @digits mark sign ds hmark hsign h =>
    have run := runLength_digits h.2 digit
    have empty : ds.length ≠ 0 := fun none => h.1 (List.length_eq_zero_iff.1 none)
    rcases hsign with rfl | rfl | rfl
    · obtain ⟨d, ds, rfl⟩ := List.exists_cons_of_ne_nil h.1
      have unsigned : ¬(d = '-' ∨ d = '+') := by
        simpa using of_digit (p := fun d => !(d == '-' || d == '+'))
          (h.2 d List.mem_cons_self) (by decide)
      rw [List.cons_append] at run
      simp [exponentLength?, hmark, unsigned, run, Nat.add_comm]
    · simp [exponentLength?, hmark, run, h.1]
      omega
    · simp [exponentLength?, hmark, run, h.1]
      omega

/-! ### The value of a number -/

theorem span_digits (hds : ∀ c ∈ ds, c.isDigit = true)
    (hrest : ∀ c ∈ rest.head?, Text.isDigit c = false) :
    (ds ++ rest).takeWhile Text.isDigit = ds ∧ (ds ++ rest).dropWhile Text.isDigit = rest := by
  have digits : ∀ c ∈ ds, Text.isDigit c = true := fun c hc => isDigit_ascii (hds c hc)
  rw [List.takeWhile_append_of_pos digits, List.dropWhile_append_of_pos digits]
  cases rest with
  | nil => exact ⟨List.append_nil ds, rfl⟩
  | cons c rest =>
    rw [List.takeWhile_cons, List.dropWhile_cons, hrest c rfl]
    exact ⟨List.append_nil ds, rfl⟩

/-- A sign is split off the digits behind it. -/
theorem takeSign_digits (hsign : sign = [] ∨ sign = ['-'] ∨ sign = ['+']) (h : IsDigits ds)
    (rest : List Char) :
    takeSign (sign ++ (ds ++ rest)) = (decide (sign = ['-']), ds ++ rest) := by
  rcases hsign with rfl | rfl | rfl
  · obtain ⟨d, ds, rfl⟩ := List.exists_cons_of_ne_nil h.1
    have digit := h.2 d List.mem_cons_self
    rw [List.nil_append, List.cons_append]
    unfold takeSign
    split
    · next heq =>
      cases heq
      cases digit
    · next heq =>
      cases heq
      cases digit
    · rfl
  · rfl
  · rfl

/-- Digits with a fraction and an exponent have a value. -/
theorem readDecimal?_isSome (hds : IsDigits ds) (hf : IsFraction fraction)
    (he : IsExponent exponent) (negative : Bool) :
    ∃ x, readDecimal? negative (ds ++ (fraction ++ exponent)) = some x := by
  have after : ∀ c ∈ exponent.head?, Text.isDigit c = false := by
    intro c hc
    rcases he.head c hc with rfl | rfl <;> decide
  have before : ∀ c ∈ (fraction ++ exponent).head?, Text.isDigit c = false := by
    refine head_append (fun c hc => ?_) after
    rw [hf.head c hc]
    decide
  have allDigits {ds : List Char} (h : IsDigits ds) : ds.all Text.isDigit = true :=
    List.all_eq_true.2 fun c hc => isDigit_ascii (h.2 c hc)
  unfold readDecimal?
  simp only [span_digits hds.2 before]
  cases hf with
  | nothing =>
    cases he with
    | nothing => simp [hds.1]
    | @digits mark sign es hmark hsign h =>
      have signed := takeSign_digits hsign h []
      rw [List.append_nil] at signed
      have point : mark ≠ '.' := by rcases hmark with rfl | rfl <;> decide
      simp [hds.1, point, hmark, signed, h.1, allDigits h]
  | digits h =>
    simp only [List.cons_append, span_digits h.2 after]
    cases he with
    | nothing => simp [hds.1]
    | @digits mark sign es hmark hsign h =>
      have signed := takeSign_digits hsign h []
      rw [List.append_nil] at signed
      simp [hds.1, hmark, signed, h.1, allDigits h]

theorem dropWhile_eq_self {p : Char → Bool} (h : ∀ c ∈ cs, p c = false) : cs.dropWhile p = cs := by
  cases cs with
  | nil => rfl
  | cons c cs =>
    rw [List.dropWhile_cons, h c List.mem_cons_self]
    rfl

/-- Nothing is cut off a text without blanks. -/
theorem unpadded_eq (h : ∀ c ∈ cs, isPadding c = false) : unpadded cs = cs := by
  rw [unpadded, dropWhile_eq_self h, dropWhile_eq_self fun c hc => h c (List.mem_reverse.1 hc),
    List.reverse_reverse]

/-- Nothing is dropped from a text without separators. -/
theorem dropSeparators?_eq (p : Char → Bool) (h : ∀ c ∈ cs, c ≠ '_') :
    dropSeparators? p cs = some cs := by
  fun_induction dropSeparators? p cs with
  | case1 => rfl
  | case2 => exact absurd rfl (h '_' List.mem_cons_self)
  | case3 => rfl
  | case4 => exact absurd rfl (h '_' (by simp))
  | case5 => exact absurd rfl (h '_' (by simp))
  | case6 a b cs _ sep =>
    rcases sep with rfl | rfl
    · exact absurd rfl (h '_' (by simp))
    · exact absurd rfl (h '_' (by simp))
  | case7 a b cs _ _ ih =>
    rw [ih fun c hc => h c (List.mem_cons_of_mem a hc)]
    rfl

/-- A number is read as a decimal behind its sign. -/
theorem readFloat?_eq (h : IsReal w) :
    readFloat? (String.ofList w) = readDecimal? (takeSign w).1 (takeSign w).2 := by
  have all : numberChars.all (fun c => !isPadding c && c != '_') = true := by decide
  have plain : ∀ c ∈ w, isPadding c = false ∧ c ≠ '_' := by
    intro c hc
    simpa using List.all_eq_true.1 all c (h.chars hc)
  obtain ⟨h, hf, he, -⟩ := h
  rename_i sign ds fraction exponent
  have signed : takeSign (sign ++ ds ++ (fraction ++ exponent))
      = (decide (sign = ['-']), ds ++ (fraction ++ exponent)) := by
    rw [List.append_assoc]
    exact takeSign_digits (h.sign.imp_right .inl) h.isDigits _
  have kept : dropSeparators? Text.isDigit (ds ++ (fraction ++ exponent))
      = some (ds ++ (fraction ++ exponent)) := by
    refine dropSeparators?_eq _ fun c hc => (plain c ?_).2
    rw [List.append_assoc]
    exact List.mem_append_right _ hc
  -- The first digit tells the number from the words for what is no number.
  have number : ∀ s ∈ ["inf", "infinity", "nan"],
      String.ofList ((ds ++ (fraction ++ exponent)).map Char.toLower) ≠ s := by
    obtain ⟨d, ds, rfl⟩ := List.exists_cons_of_ne_nil h.ne_nil
    have lower : (d.toLower == 'i' || d.toLower == 'n') = false := by
      simpa using of_digit (p := fun d => !(d.toLower == 'i' || d.toLower == 'n'))
        (h.digits d List.mem_cons_self) (by decide)
    rintro s hs heq
    have first := congrArg (fun s => s.toList.head?) heq
    simp only [List.mem_cons, List.not_mem_nil, or_false] at hs
    rcases hs with rfl | rfl | rfl <;> simp at first <;> simp [first] at lower
  simp only [readFloat?, String.toList_ofList, unpadded_eq fun c hc => (plain c hc).1, signed, bind,
    Option.bind, kept, number "inf" (by simp), number "infinity" (by simp), number "nan" (by simp),
    or_self, if_false]

/-- Every number has a value. -/
theorem readFloat?_isSome (h : IsReal w) : ∃ x, readFloat? (String.ofList w) = some x := by
  rw [readFloat?_eq h]
  obtain ⟨h, hf, he, -⟩ := h
  rw [List.append_assoc, takeSign_digits (h.sign.imp_right .inl) h.isDigits]
  exact readDecimal?_isSome h.isDigits hf he _

/-! ### The digits of an integer -/

theorem ofDigitChars_lt (h : ∀ c ∈ ds, c.isDigit = true) :
    Nat.ofDigitChars 10 ds 0 < 10 ^ ds.length := by
  induction ds with
  | nil => decide
  | cons c ds ih =>
    rw [List.forall_mem_cons] at h
    have digit : c.toNat - 48 < 10 := by
      have bounds : 48 ≤ c.toNat ∧ c.toNat ≤ 57 := by
        simpa [Char.isDigit, UInt32.le_iff_toNat_le] using h.1
      omega
    have behind := ih h.2
    rw [Nat.ofDigitChars_cons, Nat.ofDigitChars_eq_ofDigitChars_zero, List.length_cons, pow_succ]
    have front : 10 ^ ds.length * (10 * 0 + (c.toNat - '0'.toNat)) ≤ 10 ^ ds.length * 9 :=
      Nat.mul_le_mul_left _ (by change 10 * 0 + (c.toNat - 48) ≤ 9; omega)
    omega

/-- A digit in front that is not zero makes a number at least that long. -/
theorem le_ofDigitChars (ds : List Char) (hc : c.isDigit = true) (zero : c ≠ '0') :
    10 ^ ds.length ≤ Nat.ofDigitChars 10 (c :: ds) 0 := by
  have digit : 1 ≤ 10 * 0 + (c.toNat - '0'.toNat) := by
    have low : 48 ≤ c.toNat ∧ c.toNat ≤ 57 := by
      simpa [Char.isDigit, UInt32.le_iff_toNat_le] using hc
    have other : c.toNat ≠ 48 := fun heq => zero (Char.toNat_inj.1 heq)
    change 1 ≤ 10 * 0 + (c.toNat - 48)
    omega
  rw [Nat.ofDigitChars_cons, Nat.ofDigitChars_eq_ofDigitChars_zero]
  exact (Nat.le_mul_of_pos_right _ digit).trans (Nat.le_add_right _ _)

/-- An integer can be written if its numeral can be read. -/
theorem IsInteger.isWritable (h : IsInteger sign ds) :
    Text.isWritable (numeralValue sign ds) = Text.isReadable (sign ++ ds) := by
  have value : (numeralValue sign ds).natAbs = Nat.ofDigitChars 10 ds 0 := by
    unfold numeralValue
    split
    · exact Int.natAbs_natCast _
    · rw [Int.natAbs_neg, Int.natAbs_natCast]
  rw [h.isReadable, Text.isWritable, value, decide_eq_decide,
    Nat.length_toDigits_le_iff (by decide) (by decide)]
  constructor
  · intro small
    by_contra long
    obtain ⟨c, cs, rfl⟩ := List.exists_cons_of_ne_nil h.ne_nil
    have more : Text.digitLimit ≤ cs.length := Nat.le_of_lt_succ (Nat.lt_of_not_le long)
    have zero : c ≠ '0' := by
      rintro rfl
      obtain rfl := (List.cons.inj (h.zero rfl)).2
      cases more
    have least := le_ofDigitChars cs (h.digits c List.mem_cons_self) zero
    have powers : 10 ^ Text.digitLimit ≤ 10 ^ cs.length := Nat.pow_le_pow_right (by decide) more
    omega
  · intro short
    exact (ofDigitChars_lt h.digits).trans_le (Nat.pow_le_pow_right (by decide) short)

/-! ### The rule of templates -/

theorem number?_real (h : IsReal w) {x : Float} (hx : readFloat? (String.ofList w) = some x)
    (hrest : EndsAt Token.marks rest) : Token.number? (w ++ rest) = some (.float x, w.length) := by
  rw [readFloat?_eq h] at hx
  obtain ⟨h, hf, he, real⟩ := h
  rename_i sign ds fraction exponent
  have digit := hrest.head (p := Text.isDigit) (by decide)
  have point : ∀ c ∈ rest.head?, c ≠ '.' := by
    intro c hc
    simpa using hrest.head (p := (· == '.')) (by decide) c hc
  have mark : ∀ c ∈ rest.head?, ¬(c = 'e' ∨ c = 'E') := by
    intro c hc
    simpa using hrest.head (p := fun c => c == 'e' || c == 'E') (by decide) c hc
  have behind : ∀ c ∈ exponent.head?, c ≠ '.' ∧ Text.isDigit c = false := by
    intro c hc
    rcases he.head c hc with rfl | rfl <;> decide
  have whole := h.integerLength? (digit_head hf he digit)
  have fractionLength : (fractionLength? (fraction ++ (exponent ++ rest))).getD 0
      = fraction.length :=
    fractionLength?_append hf (head_append (fun c hc => (behind c hc).1) point)
      (head_append (fun c hc => (behind c hc).2) digit)
  have exponentLength := exponentLength?_append he mark digit
  have text : sign ++ ds ++ (fraction ++ exponent) ++ rest
      = sign ++ ds ++ (fraction ++ (exponent ++ rest)) := by simp
  have skipped : (sign ++ ds ++ (fraction ++ exponent) ++ rest).drop
      ((sign ++ ds).length + fraction.length) = exponent ++ rest := by
    rw [text, ← List.append_assoc, ← List.length_append, List.drop_left]
  have length : (sign ++ ds).length + fraction.length + exponent.length
      = (sign ++ ds ++ (fraction ++ exponent)).length := by simp [Nat.add_assoc]
  have some : fraction.length + exponent.length ≠ 0 := by
    rw [← List.length_append]
    exact fun none => real (List.length_eq_zero_iff.1 none)
  unfold Token.number?
  rw [text, whole]
  simp only [List.drop_left, fractionLength]
  rw [← text, skipped, exponentLength, if_neg some, length, List.take_left, hx]
  rfl

theorem rule_real {source : String} (h : IsReal w) {x : Float}
    (hx : readFloat? (String.ofList w) = some x) (hrest : EndsAt Token.marks rest)
    (position : Nat) : Token.rule source position (w ++ rest) = .token (.float x) w.length := by
  have number := number?_real h hx hrest
  obtain ⟨h, -, -, -⟩ := h
  obtain ⟨c, w, hw, hc⟩ := h.exists_cons
  obtain ⟨gap, single, double, question, colon, -⟩ := Token.of_isDigit hc
  rw [hw, List.cons_append, List.cons_append] at number ⊢
  refine Token.rule_eq_token gap ?_ ?_ (by simp [Token.isNumeral]) position
  · exact Token.delimited?_eq_none (Template.markedOpener?_eq_none (.inl ⟨question, colon⟩))
      (Template.stringLength?_eq_none single double)
  · rw [Token.simple?, Token.placeholder?_eq_none question, number]
    rfl

end LinkedDocs.Json
