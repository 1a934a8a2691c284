import LinkedDocs.Scan.Lexemes
import Mathlib

/-! Laws of the lexemes that the languages share.

    A run ends where the next character is of another class. A string ends at a quote inside the
    text, so what follows the text does not change its length, and a numeral is made of digits, a
    sign and a point. It can be read as an integer unless its digits are too many. -/

namespace LinkedDocs.Scan

/-! ### Runs of one class -/

variable {p : Char → Bool} {w cs rest : List Char} {n : Nat}

/-- A run does not go on into a text that begins with another class. -/
theorem runLength_append_right (hrest : ∀ c ∈ rest.head?, p c = false) :
    runLength p (cs ++ rest) = runLength p cs := by
  unfold runLength
  induction cs with
  | nil =>
    cases rest with
    | nil => rfl
    | cons c rest => simp [hrest c rfl]
  | cons c cs ih =>
    rw [List.cons_append, List.takeWhile_cons, List.takeWhile_cons]
    cases p c with
    | true => exact congrArg (· + 1) ih
    | false => rfl

theorem runLength_append (hw : ∀ c ∈ w, p c = true) (hrest : ∀ c ∈ rest.head?, p c = false) :
    runLength p (w ++ rest) = w.length := by
  rw [runLength_append_right hrest, runLength, List.takeWhile_eq_self_iff.2 hw]

theorem runLength_le (p : Char → Bool) (cs : List Char) : runLength p cs ≤ cs.length :=
  (List.takeWhile_prefix p).length_le

/-- A run is of its class. -/
theorem of_mem_run {c : Char} (hc : c ∈ cs.take (runLength p cs)) : p c = true := by
  have prefixed : cs.take (runLength p cs) = cs.takeWhile p :=
    (List.prefix_iff_eq_take.1 (List.takeWhile_prefix p)).symm
  rw [prefixed] at hc
  exact List.mem_takeWhile_imp hc

/-- What blanks are not, no blank is. -/
theorem of_isGap {c : Char} (hp : [' ', '\t', '\r', '\n'].any p = false) (h : isGap c = true) :
    p c = false := by
  simp only [isGap, Bool.or_eq_true, beq_iff_eq] at h
  refine Bool.eq_false_iff.2 (List.any_eq_false.1 hp c ?_)
  simpa [or_assoc] using h

/-! ### Strings -/

variable {q c d : Char}

theorem stringTail_quote : stringTail q (q :: cs) = some 1 := by
  cases cs <;> simp [stringTail]

theorem stringTail_escape (hq : q ≠ '\\') (hd : d ≠ '\n') :
    stringTail q ('\\' :: d :: cs) = (stringTail q cs).map (· + 2) := by
  rw [stringTail, if_neg hq.symm, if_pos rfl, if_neg hd]

theorem stringTail_other (hq : c ≠ q) (hc : c ≠ '\\') :
    stringTail q (c :: cs) = (stringTail q cs).map (· + 1) := by
  cases cs with
  | nil => simp [stringTail, hq]
  | cons d cs => rw [stringTail, if_neg hq, if_neg hc]

/-- A string ends within its text, and what follows the text does not matter. -/
theorem stringTail_append (h : stringTail q cs = some n) (rest : List Char) :
    1 ≤ n ∧ n ≤ cs.length ∧ stringTail q (cs ++ rest) = some n := by
  fun_induction stringTail q cs generalizing n with
  | case1 => cases h
  | case2 =>
    cases h
    exact ⟨le_rfl, le_rfl, stringTail_quote⟩
  | case3 => cases h
  | case4 d cs =>
    cases h
    exact ⟨le_rfl, by simp, stringTail_quote⟩
  | case5 => cases h
  | case6 d cs hd hq ih =>
    obtain ⟨m, hm, rfl⟩ := Option.map_eq_some_iff.1 h
    obtain ⟨hpos, hle, happ⟩ := ih hm
    refine ⟨by omega, by simp only [List.length_cons]; omega, ?_⟩
    rw [List.cons_append, List.cons_append, stringTail_escape (Ne.symm hq) hd, happ]
    rfl
  | case7 c d cs hq hc ih =>
    obtain ⟨m, hm, rfl⟩ := Option.map_eq_some_iff.1 h
    obtain ⟨hpos, hle, happ⟩ := ih hm
    refine ⟨by omega, by simp only [List.length_cons] at hle ⊢; omega, ?_⟩
    rw [List.cons_append, stringTail_other hq hc, happ]
    rfl

theorem stringLength?_append (h : stringLength? cs = some n) (rest : List Char) :
    2 ≤ n ∧ n ≤ cs.length ∧ stringLength? (cs ++ rest) = some n := by
  cases cs with
  | nil => cases h
  | cons q cs =>
    rw [stringLength?] at h
    split at h
    · next hq =>
      obtain ⟨m, hm, rfl⟩ := Option.map_eq_some_iff.1 h
      obtain ⟨hpos, hle, happ⟩ := stringTail_append hm rest
      refine ⟨by omega, by simp only [List.length_cons]; omega, ?_⟩
      rw [List.cons_append, stringLength?, if_pos hq, happ]
      rfl
    · cases h

/-! ### Numerals -/

/-- A digit is an ASCII digit or lies far behind the ASCII characters. -/
theorem bounds_of_isDigit (h : Text.isDigit c = true) :
    48 ≤ c.toNat ∧ c.toNat ≤ 57 ∨ 0x660 ≤ c.toNat := by
  unfold Text.isDigit Text.digitValue? at h
  rw [Option.isSome_map, List.find?_isSome] at h
  obtain ⟨z, hz, hc⟩ := h
  have zeros : ∀ z ∈ Text.digitZeros, z = 48 ∨ 0x660 ≤ z := by decide
  simp only [Bool.and_eq_true, decide_eq_true_eq] at hc
  rcases zeros z hz with rfl | hz
  · omega
  · omega

/-- The characters of a numeral without an exponent. -/
def IsNumeric (c : Char) : Prop := c = '-' ∨ c = '.' ∨ Text.isDigit c = true

theorem integerLength?_spec (h : integerLength? cs = some n) :
    1 ≤ n ∧ n ≤ cs.length ∧ ∀ c ∈ cs.take n, IsNumeric c := by
  unfold integerLength? at h
  extract_lets sign m at h
  split at h
  · cases h
  · next hm =>
    cases h
    have digits := runLength_le Text.isDigit (cs.drop sign)
    rw [List.length_drop] at digits
    refine ⟨by omega, by omega, ?_⟩
    intro c hc
    rw [List.take_add, List.mem_append] at hc
    rcases hc with hc | hc
    · by_cases minus : cs.head? = some '-'
      · obtain ⟨cs, rfl⟩ : ∃ ds, cs = '-' :: ds := List.head?_eq_some_iff.1 minus
        rw [show sign = 1 from if_pos minus] at hc
        exact .inl (List.mem_singleton.1 hc)
      · rw [show sign = 0 from if_neg minus] at hc
        cases hc
    · exact .inr (.inr (of_mem_run hc))

/-- An integer is a sign, perhaps, and digits. -/
theorem integerLength?_take (h : integerLength? cs = some n) :
    ∃ sign ds, cs.take n = sign ++ ds ∧ (sign = [] ∨ sign = ['-']) ∧
      ∀ d ∈ ds, Text.isDigit d = true := by
  unfold integerLength? at h
  extract_lets sign m at h
  split at h
  · cases h
  · cases h
    refine ⟨cs.take sign, (cs.drop sign).take m, List.take_add, ?_, fun d hd => of_mem_run hd⟩
    by_cases minus : cs.head? = some '-'
    · obtain ⟨cs, rfl⟩ : ∃ ds, cs = '-' :: ds := List.head?_eq_some_iff.1 minus
      exact .inr (by rw [show sign = 1 from if_pos minus]; rfl)
    · exact .inl (by rw [show sign = 0 from if_neg minus]; rfl)

theorem fractionLength?_spec (h : fractionLength? cs = some n) :
    n ≤ cs.length ∧ ∀ c ∈ cs.take n, IsNumeric c := by
  unfold fractionLength? at h
  split at h
  · next cs =>
    extract_lets m at h
    split at h
    · cases h
    · cases h
      have digits := runLength_le Text.isDigit cs
      refine ⟨by simp only [List.length_cons]; omega, ?_⟩
      intro c hc
      rw [List.take_succ_cons, List.mem_cons] at hc
      rcases hc with rfl | hc
      · exact .inr (.inl rfl)
      · exact .inr (.inr (of_mem_run hc))
  · cases h

theorem fractionLength?_eq_none (h : ∀ c ∈ cs.head?, c ≠ '.') : fractionLength? cs = none := by
  unfold fractionLength?
  split
  · exact absurd rfl (h '.' rfl)
  · rfl

theorem exponentLength?_eq_none (h : ∀ c ∈ cs.head?, ¬(c = 'e' ∨ c = 'E')) :
    exponentLength? cs = none := by
  cases cs with
  | nil => rfl
  | cons c cs => rw [exponentLength?, if_neg (h c rfl)]

/-! ### Decimal digits -/

theorem digitValue?_ascii (h : c.isDigit = true) : Text.digitValue? c = some (c.toNat - 48) := by
  have low : 48 ≤ c.toNat ∧ c.toNat ≤ 57 := by
    simpa [Char.isDigit, UInt32.le_iff_toNat_le] using h
  have first : (decide (0x30 ≤ c.toNat) && decide (c.toNat < 0x30 + 10)) = true := by
    simp only [Bool.and_eq_true, decide_eq_true_eq]
    omega
  exact Option.map_eq_some_iff.2 ⟨48, List.find?_cons_of_pos first, rfl⟩

theorem isDigit_ascii (h : c.isDigit = true) : Text.isDigit c = true := by
  rw [Text.isDigit, digitValue?_ascii h]
  rfl

theorem digitsValue_ascii (h : ∀ c ∈ cs, c.isDigit = true) (value : Nat) :
    cs.foldl (fun n c => 10 * n + (Text.digitValue? c).getD 0) value
      = Nat.ofDigitChars 10 cs value := by
  induction cs generalizing value with
  | nil => rfl
  | cons c cs ih =>
    rw [List.foldl_cons, digitValue?_ascii (h c List.mem_cons_self), Nat.ofDigitChars_cons]
    exact ih (fun d hd => h d (List.mem_cons_of_mem c hd)) _

theorem isDigit_of_mem_toDigits (h : c ∈ Nat.toDigits 10 n) : c.isDigit = true :=
  Nat.isDigit_of_mem_toDigits (by decide) (by decide) h

/-- The digits of a number denote it. -/
theorem digitsValue_toDigits (n : Nat) : Text.digitsValue (Nat.toDigits 10 n) = n := by
  rw [Text.digitsValue, digitsValue_ascii fun c hc => isDigit_of_mem_toDigits hc]
  exact Nat.ofDigitChars_ten_toDigits

/-! ### Numerals that are too long -/

/-- A run of digits stands in the text that is too long to be read. -/
def HasOverlong (cs : List Char) : Prop :=
  ∃ ds, ds <:+: cs ∧ (∀ d ∈ ds, Text.isDigit d = true) ∧ Text.digitLimit < ds.length

theorem HasOverlong.within {u v : List Char} (h : HasOverlong u) (hu : u <:+: v) :
    HasOverlong v := by
  obtain ⟨ds, hds, digits, long⟩ := h
  exact ⟨ds, hds.trans hu, digits, long⟩

/-- Digits behind what is none are read by their number. -/
theorem isReadable_append {mark ds : List Char} (hmark : ∀ c ∈ mark, Text.isDigit c = false)
    (digits : ∀ d ∈ ds, Text.isDigit d = true) :
    Text.isReadable (mark ++ ds) = decide (ds.length ≤ Text.digitLimit) := by
  have none : mark.countP Text.isDigit = 0 :=
    List.countP_eq_zero.2 fun c hc => by rw [hmark c hc]; decide
  rw [Text.isReadable, List.countP_append, none, Nat.zero_add, List.countP_eq_length.2 digits]

theorem isReadable_digits {ds : List Char} (digits : ∀ d ∈ ds, Text.isDigit d = true) :
    Text.isReadable ds = decide (ds.length ≤ Text.digitLimit) :=
  @isReadable_append [] ds nofun digits

theorem ne_nil_of_long {ds : List Char} (long : Text.digitLimit < ds.length) : ds ≠ [] :=
  List.length_pos_iff.1 (Nat.zero_lt_of_lt long)

theorem isReadable_long {ds : List Char} (digits : ∀ d ∈ ds, Text.isDigit d = true)
    (long : Text.digitLimit < ds.length) : Text.isReadable ds = false := by
  rw [isReadable_digits digits]
  exact decide_eq_false (Nat.not_le.2 long)

theorem hasOverlong_of_append {mark ds : List Char} (hmark : ∀ c ∈ mark, Text.isDigit c = false)
    (digits : ∀ d ∈ ds, Text.isDigit d = true) (h : Text.isReadable (mark ++ ds) = false) :
    HasOverlong (mark ++ ds) := by
  rw [isReadable_append hmark digits, decide_eq_false_iff_not, Nat.not_le] at h
  exact ⟨ds, (List.suffix_append mark ds).isInfix, digits, h⟩

theorem sign_ne_digit {sign : List Char} (h : sign = [] ∨ sign = ['-']) :
    ∀ c ∈ sign, Text.isDigit c = false := by
  rcases h with rfl | rfl
  · exact List.forall_mem_nil _
  · exact List.forall_mem_singleton.2 (by decide)

theorem hasOverlong_of_integer (h : integerLength? cs = some n)
    (long : Text.isReadable (cs.take n) = false) : HasOverlong cs := by
  obtain ⟨sign, ds, htake, hsign, digits⟩ := integerLength?_take h
  rw [htake] at long
  refine (hasOverlong_of_append (sign_ne_digit hsign) digits long).within ?_
  rw [← htake]
  exact (List.take_prefix n cs).isInfix

/-! ### Numerals in decimal digits -/

/-- A minus sign or none, and digits. -/
structure IsNumeral (sign ds : List Char) : Prop where
  sign : sign = [] ∨ sign = ['-']
  ne_nil : ds ≠ []
  digits : ∀ c ∈ ds, c.isDigit = true

/-- The integer that a numeral denotes. -/
def numeralValue (sign ds : List Char) : Int :=
  if sign = [] then Nat.ofDigitChars 10 ds 0 else -(Nat.ofDigitChars 10 ds 0 : Int)

theorem runLength_digits {ds : List Char} (hds : ∀ c ∈ ds, c.isDigit = true)
    (hrest : ∀ c ∈ rest.head?, Text.isDigit c = false) :
    runLength Text.isDigit (ds ++ rest) = ds.length :=
  runLength_append (fun c hc => isDigit_ascii (hds c hc)) hrest

namespace IsNumeral

variable {sign ds : List Char}

/-- A numeral begins with its sign or with a digit. -/
theorem exists_cons (h : IsNumeral sign ds) :
    ∃ c w, sign ++ ds = c :: w ∧ (c = '-' ∨ c.isDigit = true) := by
  obtain ⟨d, ds, rfl⟩ := List.exists_cons_of_ne_nil h.ne_nil
  rcases h.sign with rfl | rfl
  · exact ⟨d, ds, rfl, .inr (h.digits d List.mem_cons_self)⟩
  · exact ⟨'-', d :: ds, rfl, .inl rfl⟩

theorem integerLength? (h : IsNumeral sign ds) (hrest : ∀ c ∈ rest.head?, Text.isDigit c = false) :
    integerLength? (sign ++ ds ++ rest) = some (sign ++ ds).length := by
  have run := runLength_digits h.digits hrest
  obtain ⟨d, ds, rfl⟩ := List.exists_cons_of_ne_nil h.ne_nil
  rcases h.sign with rfl | rfl
  · have minus : d ≠ '-' := by
      rintro rfl
      exact absurd (h.digits '-' List.mem_cons_self) (by decide)
    rw [List.cons_append] at run
    simp [Scan.integerLength?, minus, run]
  · rw [List.cons_append] at run
    simp [Scan.integerLength?, run, Nat.add_comm]

theorem isReadable (h : IsNumeral sign ds) :
    Text.isReadable (sign ++ ds) = decide (ds.length ≤ Text.digitLimit) :=
  isReadable_append (sign_ne_digit h.sign) fun d hd => isDigit_ascii (h.digits d hd)

theorem integerValue (h : IsNumeral sign ds) :
    Text.integerValue (sign ++ ds) = numeralValue sign ds := by
  have value : Text.digitsValue ds = Nat.ofDigitChars 10 ds 0 := digitsValue_ascii h.digits 0
  rcases h.sign with rfl | rfl
  · obtain ⟨d, ds, rfl⟩ := List.exists_cons_of_ne_nil h.ne_nil
    rw [List.nil_append, numeralValue, if_pos rfl, ← value]
    unfold Text.integerValue
    split
    · next heq =>
      cases heq
      exact absurd (h.digits '-' List.mem_cons_self) (by decide)
    · rfl
  · rw [numeralValue, if_neg (List.cons_ne_nil _ _), ← value]
    rfl

end IsNumeral

/-! ### Digits of any script -/

theorem integerLength?_digits {ds : List Char} (some : ds ≠ [])
    (digits : ∀ d ∈ ds, Text.isDigit d = true)
    (hrest : ∀ c ∈ rest.head?, Text.isDigit c = false) :
    integerLength? (ds ++ rest) = .some ds.length := by
  have run := runLength_append digits hrest
  obtain ⟨d, ds, rfl⟩ := List.exists_cons_of_ne_nil some
  have minus : d ≠ '-' := by
    rintro rfl
    exact absurd (digits '-' List.mem_cons_self) (by decide)
  rw [List.cons_append] at run ⊢
  simp [integerLength?, minus, run]

/-- Digits of any script, which denote a number and are not too many to be read. -/
structure IsIndex (ds : List Char) (n : Nat) : Prop where
  ne_nil : ds ≠ []
  digits : ∀ d ∈ ds, Text.isDigit d = true
  value : Text.digitsValue ds = n
  short : ds.length ≤ Text.digitLimit

namespace IsIndex

variable {ds : List Char}

theorem exists_cons (h : IsIndex ds n) : ∃ d ds', ds = d :: ds' ∧ Text.isDigit d = true ∧ d ≠ '-' := by
  obtain ⟨d, ds, rfl⟩ := List.exists_cons_of_ne_nil h.ne_nil
  have digit := h.digits d List.mem_cons_self
  refine ⟨d, ds, rfl, digit, ?_⟩
  rintro rfl
  exact absurd digit (by decide)

theorem isReadable (h : IsIndex ds n) : Text.isReadable ds = true := by
  rw [isReadable_digits h.digits]
  exact decide_eq_true h.short

theorem integerValue (h : IsIndex ds n) : Text.integerValue ds = n := by
  rw [← h.value]
  obtain ⟨d, ds, rfl, -, minus⟩ := h.exists_cons
  unfold Text.integerValue
  split
  · next heq =>
    cases heq
    exact absurd rfl minus
  · rfl

end IsIndex

theorem isIndex_toDigits {n : Nat} (h : Text.isWritable n = true) : IsIndex (Nat.toDigits 10 n) n where
  ne_nil := Nat.toDigits_ne_nil
  digits _ hd := isDigit_ascii (isDigit_of_mem_toDigits hd)
  value := digitsValue_toDigits n
  short := of_decide_eq_true h

/-- The numeral of a natural number. -/
theorem isNumeral_toDigits {sign : List Char} (hsign : sign = [] ∨ sign = ['-']) (n : Nat) :
    IsNumeral sign (Nat.toDigits 10 n) :=
  ⟨hsign, Nat.toDigits_ne_nil, fun _ hc => isDigit_of_mem_toDigits hc⟩

/-- A numeral with one digit more than can be read. -/
def overlong : List Char := List.replicate (Text.digitLimit + 1) '1'

theorem overlong_isNumeral : IsNumeral [] overlong where
  sign := .inl rfl
  ne_nil := by simp [overlong]
  digits _ hd := by rw [List.eq_of_mem_replicate hd]; decide

theorem overlong_length : Text.digitLimit < overlong.length := by
  rw [overlong, List.length_replicate]
  exact Nat.lt_succ_self _

/-- An integer is printed as a numeral that denotes it. -/
theorem exists_numeral (n : Int) : ∃ sign, (toString n).toList = sign ++ Nat.toDigits 10 n.natAbs ∧
    IsNumeral sign (Nat.toDigits 10 n.natAbs) ∧ numeralValue sign (Nat.toDigits 10 n.natAbs) = n := by
  cases n with
  | ofNat n =>
    refine ⟨[], Nat.toList_repr, isNumeral_toDigits (.inl rfl) n, ?_⟩
    change numeralValue [] (Nat.toDigits 10 n) = n
    rw [numeralValue, if_pos rfl, Nat.ofDigitChars_ten_toDigits]
  | negSucc n =>
    refine ⟨['-'], ?_, isNumeral_toDigits (.inr rfl) (n + 1), ?_⟩
    · change ("-" ++ (n + 1).repr).toList = _
      rw [String.toList_append, Nat.toList_repr]
      rfl
    · change numeralValue ['-'] (Nat.toDigits 10 (n + 1)) = _
      rw [numeralValue, if_neg (List.cons_ne_nil _ _), Nat.ofDigitChars_ten_toDigits]
      rfl

end LinkedDocs.Scan
