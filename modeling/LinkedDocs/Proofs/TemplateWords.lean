import LinkedDocs.Proofs.ExpressionBlock
import LinkedDocs.Template.Token

/-! The words of a printed template, and the tokens they spell.

    A text is written in single quotes, with a backslash before every quote and backslash in it; a
    placeholder by its number in decimal digits; a block by its source. Each word is one token
    wherever a blank or the end of the text comes next: no rule takes the word for something else,
    and the rule that takes it stops at the blank. -/

namespace LinkedDocs.Template

open Scan

/-- A character as it is written between single quotes. -/
def escapeChar (c : Char) : List Char := if c = '\'' ∨ c = '\\' then ['\\', c] else [c]

def escape (cs : List Char) : List Char := cs.flatMap escapeChar

/-- A text in single quotes. -/
def quotedWord (s : String) : List Char := '\'' :: (escape s.toList ++ ['\''])

def placeholderWord (n : Nat) : List Char := '?' :: Nat.toDigits 10 n

def integerWord (n : Int) : List Char := (toString n).toList

def blockWord (source : String) : List Char := '?' :: '#' :: '{' :: (source.toList ++ ['}'])

/-! ### Which rules do not apply -/

variable {c d : Char} {cs w rest : List Char} {n : Nat}

theorem markedOpener?_eq_none (h : c ≠ '?' ∧ c ≠ ':' ∨ ∀ d ∈ cs.head?, d ≠ '#') :
    Block.markedOpener? (c :: cs) = none := by
  unfold Block.markedOpener?
  split
  · next c' cs' heq =>
    cases heq
    rcases h with ⟨question, colon⟩ | second
    · rw [if_neg]
      rintro (h | h)
      · exact question h
      · exact colon h
    · exact absurd rfl (second '#' rfl)
  · rfl

theorem stringLength?_eq_none (single : c ≠ '\'') (double : c ≠ '"') :
    stringLength? (c :: cs) = none := by
  rw [stringLength?, if_neg]
  rintro (h | h)
  · exact single h
  · exact double h

namespace Token

/-- The characters that are tokens by themselves. -/
def marks : List Char := ['{', '}', '[', ']', '(', ')', ':', ',']

theorem delimited?_eq_none {source : String} (opener : Block.markedOpener? cs = none)
    (string : stringLength? cs = none) : delimited? source cs = none := by
  rw [delimited?, opener, string]
  rfl

theorem placeholder?_eq_none (h : c ≠ '?') : placeholder? (c :: cs) = none := by
  unfold placeholder? placeholderLength?
  split
  · next heq =>
    cases heq
    exact absurd rfl h
  · rfl

theorem number?_eq_none (minus : c ≠ '-') (digit : Text.isDigit c = false) :
    number? (c :: cs) = none := by
  have none : integerLength? (c :: cs) = none := by
    simp [integerLength?, minus, runLength, digit]
  rw [number?, none]

theorem word?_eq_none (h : Expr.Token.isNameStart c = false) : word? (c :: cs) = none := by
  simp [word?, h]

/-- Where neither a block nor a string starts, the first rule that applies gives the token, unless
    it is a numeral that is too long. -/
theorem rule_eq_of {source : String} {t : Token} (gap : isGap c = false)
    (delimited : delimited? source (c :: cs) = none) (simple : simple? (c :: cs) = some (t, n))
    (position : Nat) :
    rule source position (c :: cs) = .of t.isNumeral ((c :: cs).take n) t n := by
  rw [rule, gap, delimited, simple]
  rfl

theorem rule_eq_token {source : String} {t : Token} (gap : isGap c = false)
    (delimited : delimited? source (c :: cs) = none) (simple : simple? (c :: cs) = some (t, n))
    (readable : t.isNumeral = true → Text.isReadable ((c :: cs).take n) = true) (position : Nat) :
    rule source position (c :: cs) = .token t n := by
  rw [rule_eq_of gap delimited simple, Lexeme.of_eq_self readable]

variable {source : String}

/-- Blanks are passed over. -/
theorem rule_gap (position : Nat) (c : Char) (cs : List Char) (h : isGap c = true) :
    rule source position (c :: cs) = .skip := by
  rw [rule, if_pos h]

theorem isGap_of_rule {p : Nat} {c : Char} {cs : List Char}
    (h : rule source p (c :: cs) = .skip) : isGap c = true := by
  rw [rule] at h
  split at h
  · assumption
  · split at h
    · next l hl =>
      subst h
      unfold delimited? at hl
      split at hl
      · split at hl <;> cases hl
      · obtain ⟨n, -, hn⟩ := Option.map_eq_some_iff.1 hl
        split at hn <;> cases hn
    · split at h
      · exact absurd h Lexeme.of_ne_skip
      · cases h

theorem second_of_atGap (h : AtGap rest) : ∀ d ∈ rest.head?, d ≠ '#' := by
  rintro d hd rfl
  exact absurd (h '#' hd) (by decide)

/-- A class without blanks ends where a blank or the end of the text comes next. -/
theorem head_of_atGap {p : Char → Bool} (h : AtGap rest)
    (hp : [' ', '\t', '\r', '\n'].any p = false) : ∀ c ∈ rest.head?, p c = false := by
  intro c hc
  exact of_isGap hp (h c hc)

/-- What a mark is not. -/
theorem of_ofMark? {t : Token} (h : ofMark? c = some t) :
    isGap c = false ∧ c ≠ '\'' ∧ c ≠ '"' ∧ c ≠ '?' ∧ c ≠ '-' ∧ Text.isDigit c = false ∧
      Expr.Token.isNameStart c = false := by
  unfold ofMark? at h
  split at h <;> first | decide | cases h

theorem isNumeral_ofMark? {t : Token} (h : ofMark? c = some t) : t.isNumeral = false := by
  unfold ofMark? at h
  split at h <;> cases h <;> rfl

theorem isNumeral_ofWord (s : String) : (ofWord s).isNumeral = false := by
  unfold ofWord
  split
  · rfl
  · split <;> rfl

/-- A mark is taken whatever comes next, a colon where no hash does. -/
theorem rule_mark {t : Token} (h : ofMark? c = some t) (block : c ≠ ':' ∨ ∀ d ∈ rest.head?, d ≠ '#')
    (position : Nat) : rule source position (c :: rest) = .token t 1 := by
  obtain ⟨gap, single, double, question, minus, digit, start⟩ := of_ofMark? h
  refine rule_eq_token gap ?_ ?_ (by simp [isNumeral_ofMark? h]) position
  · exact delimited?_eq_none (markedOpener?_eq_none (block.imp_left fun colon => ⟨question, colon⟩))
      (stringLength?_eq_none single double)
  · rw [simple?, placeholder?_eq_none question, number?_eq_none minus digit, word?_eq_none start,
      mark?, h]
    rfl

theorem spells_mark {t : Token} (h : ofMark? c = some t) : Spells (rule source) [c] t :=
  ⟨by simp, fun position _ hrest => rule_mark h (.inr (second_of_atGap hrest)) position⟩

theorem bounds_of_isNameStart (h : Expr.Token.isNameStart c = true) :
    58 ≤ c.toNat ∧ c.toNat ≤ 122 ∨ c = '$' := by
  simp only [Expr.Token.isNameStart, isLetter, Bool.or_eq_true, beq_iff_eq] at h
  rcases h with (h | rfl) | rfl
  · left
    simp only [Char.isAlpha, Char.isUpper, Char.isLower, Bool.or_eq_true, Bool.and_eq_true,
      decide_eq_true_eq, ge_iff_le, UInt32.le_iff_toNat_le] at h
    simp only [Char.reduceVal, UInt32.reduceToNat, Char.toNat_val] at h
    omega
  · decide
  · exact .inr rfl

/-- What the first character of a word is not. -/
theorem of_isNameStart (h : Expr.Token.isNameStart c = true) :
    isGap c = false ∧ c ≠ '\'' ∧ c ≠ '"' ∧ c ≠ '?' ∧ c ≠ ':' ∧ c ≠ '-' ∧
      Text.isDigit c = false := by
  refine ⟨?_, ?_, ?_, ?_, ?_, ?_, ?_⟩
  · refine Bool.eq_false_iff.2 fun gap => ?_
    have start := of_isGap (p := Expr.Token.isNameStart) (by decide) gap
    rw [h] at start
    cases start
  on_goal 6 =>
    refine Bool.eq_false_iff.2 fun digit => ?_
    have digits := bounds_of_isDigit digit
    rcases bounds_of_isNameStart h with letters | rfl
    · omega
    · revert digits
      decide
  all_goals
    rintro rfl
    revert h
    decide

/-- A word is one token up to the next mark or blank. -/
theorem rule_word (hc : Expr.Token.isNameStart c = true) (hw : ∀ d ∈ w, isWordChar d = true)
    (hrest : EndsAt marks rest) (position : Nat) :
    rule source position (c :: w ++ rest) = .token (ofWord (String.ofList (c :: w))) (w.length + 1) := by
  obtain ⟨gap, single, double, question, colon, minus, digit⟩ := of_isNameStart hc
  have run : runLength isWordChar (w ++ rest) = w.length :=
    runLength_append hw (hrest.head (by decide))
  refine rule_eq_token gap ?_ ?_ (by simp [isNumeral_ofWord]) position
  · exact delimited?_eq_none (markedOpener?_eq_none (.inl ⟨question, colon⟩))
      (stringLength?_eq_none single double)
  · have word : word? (c :: (w ++ rest)) = some (ofWord (String.ofList (c :: w)), w.length + 1) := by
      simp [word?, hc, run]
    rw [List.append_eq, simple?, placeholder?_eq_none question, number?_eq_none minus digit, word]
    rfl

theorem spells_word (hc : Expr.Token.isNameStart c = true) (hw : ∀ d ∈ w, isWordChar d = true) :
    Spells (rule source) (c :: w) (ofWord (String.ofList (c :: w))) :=
  ⟨by simp, fun position _ hrest => rule_word hc hw hrest.endsAt position⟩

/-- A reserved word is made of letters. -/
theorem keyword_letters (k : Keyword) : ∃ c w, k.word.toList = c :: w ∧
    Expr.Token.isNameStart c = true ∧ ∀ d ∈ w, isLetter d = true := by
  cases k with
  | yes => exact ⟨'t', ['r', 'u', 'e'], rfl, by decide, List.all_eq_true.1 (by decide)⟩
  | no => exact ⟨'f', ['a', 'l', 's', 'e'], rfl, by decide, List.all_eq_true.1 (by decide)⟩
  | nothing => exact ⟨'n', ['u', 'l', 'l'], rfl, by decide, List.all_eq_true.1 (by decide)⟩

theorem rule_keyword (k : Keyword) (hrest : EndsAt marks rest) (position : Nat) :
    rule source position (k.word.toList ++ rest) = .token (.keyword k) k.word.toList.length := by
  have reserved : ofWord k.word = .keyword k := by rw [ofWord, Keyword.ofWord?_word]
  obtain ⟨c, w, hword, hc, hw⟩ := keyword_letters k
  rw [← reserved, ← String.ofList_toList (s := k.word), String.toList_ofList, hword]
  exact rule_word hc (fun d hd => by simp [isWordChar, hw d hd]) hrest position

theorem spells_keyword (k : Keyword) : Spells (rule source) k.word.toList (.keyword k) :=
  ⟨by cases k <;> decide, fun position _ hrest => rule_keyword k hrest.endsAt position⟩

/-! ### Numbers and placeholders -/

/-- What the first character of a number is not. -/
theorem of_isDigit (h : c = '-' ∨ c.isDigit = true) :
    isGap c = false ∧ c ≠ '\'' ∧ c ≠ '"' ∧ c ≠ '?' ∧ c ≠ ':' ∧ c ≠ '#' := by
  rcases h with rfl | h
  · decide
  · refine ⟨?_, ?_, ?_, ?_, ?_, ?_⟩
    · refine Bool.eq_false_iff.2 fun gap => ?_
      have digit := of_isGap (p := Char.isDigit) (by decide) gap
      rw [h] at digit
      cases digit
    all_goals
      rintro rfl
      revert h
      decide

/-- A numeral that ends at a mark or a blank is an integer. -/
theorem number?_append (hw : integerLength? (w ++ rest) = some w.length)
    (hrest : EndsAt marks rest) :
    number? (w ++ rest) = some (.integer (Text.integerValue w), w.length) := by
  have fraction : fractionLength? rest = none := by
    refine fractionLength?_eq_none fun c hc => ?_
    simpa using hrest.head (p := (· == '.')) (by decide) c hc
  have exponent : exponentLength? rest = none := by
    refine exponentLength?_eq_none fun c hc => ?_
    simpa using hrest.head (p := fun c => c == 'e' || c == 'E') (by decide) c hc
  simp [number?, hw, fraction, exponent]

section

variable {ds : List Char} (some : ds ≠ []) (digits : ∀ d ∈ ds, Text.isDigit d = true)
include some digits

theorem placeholderLength?_append (ends : ∀ d ∈ rest.head?, Text.isDigit d = false) :
    placeholderLength? ('?' :: (ds ++ rest)) = .some (ds.length + 1) := by
  simp [placeholderLength?, runLength_append digits ends, some]

theorem markedOpener?_digits : Block.markedOpener? ('?' :: (ds ++ rest)) = none := by
  obtain ⟨d, ds, rfl⟩ := List.exists_cons_of_ne_nil some
  refine markedOpener?_eq_none (.inr ?_)
  rintro c ⟨⟩ rfl
  exact absurd (digits '#' List.mem_cons_self) (by decide)

/-- The rule finds a placeholder in a question mark and digits, up to where the digits end, if they
    are not too many. -/
theorem rule_marked_digits (ends : ∀ d ∈ rest.head?, Text.isDigit d = false) (position : Nat) :
    rule source position ('?' :: (ds ++ rest))
      = .of true ds (.placeholder (Text.digitsValue ds)) (ds.length + 1) := by
  have placeholder : placeholder? ('?' :: (ds ++ rest))
      = .some (.placeholder (Text.digitsValue ds), ds.length + 1) := by
    rw [placeholder?, placeholderLength?_append some digits ends]
    simp
  have simple : simple? ('?' :: (ds ++ rest))
      = .some (.placeholder (Text.digitsValue ds), ds.length + 1) := by
    rw [simple?, placeholder]
    rfl
  have delimited : delimited? source ('?' :: (ds ++ rest)) = none :=
    delimited?_eq_none (markedOpener?_digits some digits)
      (stringLength?_eq_none (by decide) (by decide))
  -- The question mark does not count as a digit.
  have readable : Text.isReadable ('?' :: ds) = Text.isReadable ds := by
    have mark : ∀ c ∈ ['?'], Text.isDigit c = false := List.forall_mem_singleton.2 (by decide)
    rw [← List.singleton_append, isReadable_append mark digits, isReadable_digits digits]
  rw [rule_eq_of (by decide) delimited simple, List.take_succ_cons, List.take_left, Lexeme.of,
    readable]
  rfl

end

/-- A question mark and digits are one placeholder, up to where the digits end. -/
theorem rule_placeholder {ds : List Char} (h : IsIndex ds n)
    (ends : ∀ d ∈ rest.head?, Text.isDigit d = false) (position : Nat) :
    rule source position ('?' :: (ds ++ rest)) = .token (.placeholder n) (ds.length + 1) := by
  rw [rule_marked_digits h.ne_nil h.digits ends, Lexeme.of_eq_self fun _ => h.isReadable, h.value]

theorem spells_placeholder {n : Nat} (h : Text.isWritable n = true) :
    Spells (rule source) (placeholderWord n) (.placeholder n) :=
  ⟨by simp [placeholderWord], fun position _ hrest =>
    rule_placeholder (isIndex_toDigits h) (head_of_atGap hrest (by decide)) position⟩

/-- The rule finds an integer in a numeral, if it is not too long. -/
theorem rule_numeral {sign ds : List Char} (h : IsNumeral sign ds) (hrest : EndsAt marks rest)
    (position : Nat) : rule source position (sign ++ ds ++ rest)
      = .of true (sign ++ ds) (.integer (numeralValue sign ds)) (sign ++ ds).length := by
  have number := number?_append (h.integerLength? (hrest.head (by decide))) hrest
  rw [h.integerValue] at number
  have text : (sign ++ ds ++ rest).take (sign ++ ds).length = sign ++ ds := List.take_left
  obtain ⟨c, w, hw, hc⟩ := h.exists_cons
  obtain ⟨gap, single, double, question, colon, -⟩ := of_isDigit hc
  rw [hw, List.cons_append] at number text ⊢
  have simple : simple? (c :: (w ++ rest))
      = some (.integer (numeralValue sign ds), (c :: w).length) := by
    rw [simple?, placeholder?_eq_none question, number]
    rfl
  rw [rule_eq_of gap ?_ simple, text]
  · rfl
  · exact delimited?_eq_none (markedOpener?_eq_none (.inl ⟨question, colon⟩))
      (stringLength?_eq_none single double)

/-- The rule takes a numeral as an integer. -/
theorem rule_integer {sign ds : List Char} (h : IsNumeral sign ds)
    (short : ds.length ≤ Text.digitLimit) (hrest : EndsAt marks rest) (position : Nat) :
    rule source position (sign ++ ds ++ rest)
      = .token (.integer (numeralValue sign ds)) (sign ++ ds).length := by
  rw [rule_numeral h hrest, Lexeme.of_eq_self]
  intro _
  rw [h.isReadable]
  exact decide_eq_true short

theorem rule_overlong {sign ds : List Char} (h : IsNumeral sign ds)
    (long : Text.digitLimit < ds.length) (hrest : EndsAt marks rest) (position : Nat) :
    rule source position (sign ++ ds ++ rest) = .failure (.misuse .content) := by
  rw [rule_numeral h hrest, Lexeme.of_overlong]
  rw [h.isReadable]
  exact decide_eq_false (Nat.not_le.2 long)

theorem spells_integer {n : Int} (hn : Text.isWritable n = true) :
    Spells (rule source) (integerWord n) (.integer n) := by
  obtain ⟨sign, hword, h, hvalue⟩ := exists_numeral n
  have short := of_decide_eq_true hn
  rw [integerWord, hword]
  refine ⟨by simp [h.ne_nil], fun position rest hrest => ?_⟩
  rw [rule_integer h short hrest.endsAt, hvalue]

/-! ### Numerals that are too long -/

/-- A numeral is a placeholder or an integer. -/
theorem placeholder_or_number {t : Token} (h : simple? cs = some (t, n))
    (ht : t.isNumeral = true) : placeholder? cs = some (t, n) ∨ number? cs = some (t, n) := by
  unfold simple? at h
  simp only [Option.orElse_eq_orElse, Option.orElse_eq_or, Option.or_eq_some_iff] at h
  rcases h with h | ⟨-, h | ⟨-, h | ⟨-, h⟩⟩⟩
  · exact .inl h
  · exact .inr h
  · unfold word? at h
    split at h
    · split at h <;> cases h
      rw [isNumeral_ofWord] at ht
      cases ht
    · cases h
  · unfold mark? at h
    split at h
    · obtain ⟨a, ha, heq⟩ := Option.map_eq_some_iff.1 h
      cases heq
      rw [isNumeral_ofMark? ha] at ht
      cases ht
    · cases h

/-- A placeholder or an integer is a mark, perhaps, and digits. -/
theorem digits_of_simple {t : Token} (h : simple? cs = some (t, n)) (ht : t.isNumeral = true) :
    ∃ mark ds, cs.take n = mark ++ ds ∧ (∀ c ∈ mark, Text.isDigit c = false) ∧
      ∀ d ∈ ds, Text.isDigit d = true := by
  replace h := placeholder_or_number h ht
  rcases h with h | h
  · obtain ⟨m, hm, heq⟩ := Option.map_eq_some_iff.1 h
    cases heq
    unfold placeholderLength? at hm
    split at hm
    · next cs =>
      dsimp only at hm
      split at hm <;> cases hm
      exact ⟨['?'], cs.take (runLength Text.isDigit cs), rfl,
        List.forall_mem_singleton.2 (by decide), fun d hd => of_mem_run hd⟩
    · cases hm
  · unfold number? at h
    split at h
    · cases h
    · next m hm =>
      obtain ⟨sign, ds, htake, hsign, digits⟩ := integerLength?_take hm
      dsimp only at h
      split at h <;> cases h
      · exact ⟨sign, ds, htake, sign_ne_digit hsign, digits⟩
      · cases ht

/-- What begins with a numeral that is too long has too many digits in a row. -/
theorem hasOverlong_of_simple {t : Token} (h : simple? cs = some (t, n)) (ht : t.isNumeral = true)
    (long : Text.isReadable (cs.take n) = false) : HasOverlong cs := by
  obtain ⟨mark, ds, htake, hmark, digits⟩ := digits_of_simple h ht
  rw [htake] at long
  refine (hasOverlong_of_append hmark digits long).within ?_
  rw [← htake]
  exact (List.take_prefix n cs).isInfix

/-! ### Blocks -/

/-- A block is one token if its source is made of tokens; what stands behind it is no matter. -/
theorem rule_block {expression : String} {ts : List (Placed Expr.Token)}
    (h : Expr.Token.tokens expression = .ok ts) (rest : List Char) (position : Nat) :
    rule source position (blockWord expression ++ rest)
      = .token (.expression expression) (blockWord expression).length := by
  have closing := Expr.Token.closing_of_scan (result_eq_ok.1 h).1 rest
  have word : blockWord expression ++ rest
      = '?' :: '#' :: '{' :: (expression.toList ++ '}' :: rest) := by
    simp [blockWord]
  have body : Block.body? 3 (blockWord expression ++ rest)
      = some (expression.toList, (blockWord expression).length) := by
    rw [word, Block.body?]
    simp [closing, blockWord]
    omega
  have opener : Block.markedOpener? (blockWord expression ++ rest) = some 3 := by
    rw [word]
    rfl
  have delimited : delimited? source (blockWord expression ++ rest)
      = some (.token (.expression expression) (blockWord expression).length) := by
    simp only [delimited?, opener, body, String.ofList_toList]
  -- The rule looks at the first character, so the word has to be opened up again.
  rw [word] at delimited ⊢
  rw [rule, delimited]
  rfl

theorem spells_block {expression : String} {ts : List (Placed Expr.Token)}
    (h : Expr.Token.tokens expression = .ok ts) :
    Spells (rule source) (blockWord expression) (.expression expression) :=
  ⟨by simp [blockWord], fun position rest _ => rule_block h rest position⟩

/-! ### Quoted texts -/

theorem escape_cons_special (h : c = '\'' ∨ c = '\\') (cs : List Char) :
    escape (c :: cs) = '\\' :: c :: escape cs := by
  rw [escape, List.flatMap_cons, escapeChar, if_pos h]
  rfl

theorem escape_cons_plain (h : ¬(c = '\'' ∨ c = '\\')) (cs : List Char) :
    escape (c :: cs) = c :: escape cs := by
  rw [escape, List.flatMap_cons, escapeChar, if_neg h]
  rfl

theorem stringTail_escape_append (cs rest : List Char) :
    stringTail '\'' (escape cs ++ '\'' :: rest) = some ((escape cs).length + 1) := by
  induction cs with
  | nil => exact stringTail_quote
  | cons c cs ih =>
    by_cases special : c = '\'' ∨ c = '\\'
    · have line : c ≠ '\n' := by
        rintro rfl
        revert special
        decide
      rw [escape_cons_special special, List.cons_append, List.cons_append,
        stringTail_escape (by decide) line, ih]
      rfl
    · obtain ⟨quote, backslash⟩ := not_or.1 special
      rw [escape_cons_plain special, List.cons_append, stringTail_other quote backslash, ih]
      rfl

theorem codePoints?_special (h : c = '\'' ∨ c = '\\') (cs : List Char) :
    codePoints? ('\\' :: c :: cs) = (codePoints? cs).map (c.toNat :: ·) := by
  rcases h with rfl | rfl <;> rw [codePoints?.eq_def] <;> rfl

theorem codePoints?_plain (h : c ≠ '\\') (cs : List Char) :
    codePoints? (c :: cs) = (codePoints? cs).map (c.toNat :: ·) := by
  cases cs with
  | nil => rfl
  | cons d cs =>
    rw [codePoints?.eq_def]
    split
    · next heq => cases heq
    · next heq => cases heq
    · next heq =>
      cases heq
      exact absurd rfl h
    · next heq =>
      cases heq
      rw [if_neg h]

theorem codePoints?_escape (cs : List Char) :
    codePoints? (escape cs) = some (cs.map (·.toNat)) := by
  induction cs with
  | nil => rfl
  | cons c cs ih =>
    by_cases special : c = '\'' ∨ c = '\\'
    · rw [escape_cons_special special, codePoints?_special special, ih]
      rfl
    · rw [escape_cons_plain special, codePoints?_plain (not_or.1 special).2, ih]
      rfl

/-- No character is half of another one. -/
theorem isLeadingHalf_toNat (c : Char) : isLeadingHalf c.toNat = false := by
  have valid := c.valid
  simp only [UInt32.isValidChar, Nat.isValidChar, Char.toNat_val] at valid
  simp only [isLeadingHalf, Bool.and_eq_false_iff, decide_eq_false_iff_not]
  omega

theorem joinHalves_toNat (cs : List Char) : joinHalves (cs.map (·.toNat)) = cs := by
  induction cs with
  | nil => rfl
  | cons c cs ih =>
    cases cs with
    | nil => simp [joinHalves]
    | cons d cs =>
      rw [List.map_cons, List.map_cons, joinHalves, isLeadingHalf_toNat, Bool.false_and,
        if_neg Bool.false_ne_true, Char.ofNat_toNat, ← List.map_cons, ih]

theorem unescape?_escape (cs : List Char) : unescape? (escape cs) = some cs := by
  rw [unescape?, codePoints?_escape, Option.map_some, joinHalves_toNat]

theorem quotedWord_append (s : String) (rest : List Char) :
    quotedWord s ++ rest = '\'' :: (escape s.toList ++ '\'' :: rest) := by
  simp [quotedWord]

/-- A text in quotes is a string as long as its word; what stands behind it is no matter. -/
theorem stringLength?_quotedWord (s : String) (rest : List Char) :
    stringLength? (quotedWord s ++ rest) = some (quotedWord s).length := by
  rw [quotedWord_append, stringLength?, if_pos (.inl rfl), stringTail_escape_append]
  simp [quotedWord]

theorem unquoted_quotedWord (s : String) :
    Expr.Token.unquoted (quotedWord s) = escape s.toList := by
  simp [Expr.Token.unquoted, quotedWord]

/-- A string in quotes of either kind is one token; what stands behind it is no matter. -/
theorem rule_string {q : Char} (hq : q = '\'' ∨ q = '"') {s : String}
    (tail : ∀ rest, stringTail q (w ++ q :: rest) = some (w.length + 1))
    (content : unescape? w = some s.toList) (rest : List Char) (position : Nat) :
    rule source position (q :: (w ++ q :: rest)) = .token (.string s) (w.length + 2) := by
  have gap : isGap q = false ∧ q ≠ '?' ∧ q ≠ ':' := by
    rcases hq with rfl | rfl <;> decide
  have length : stringLength? (q :: (w ++ q :: rest)) = some (w.length + 2) := by
    rw [stringLength?, if_pos hq, tail]
    rfl
  have unquoted : Expr.Token.unquoted ((q :: (w ++ q :: rest)).take (w.length + 2)) = w := by
    rw [List.take_succ_cons, List.take_length_add_append]
    simp [Expr.Token.unquoted]
  have delimited : delimited? source (q :: (w ++ q :: rest))
      = some (.token (.string s) (w.length + 2)) := by
    simp only [delimited?, markedOpener?_eq_none (.inl gap.2), length, Option.map_some, unquoted,
      unescape, String.toList_ofList, content, String.ofList_toList]
  rw [rule, gap.1, delimited]
  rfl

/-- A string of the template language, and the text it stands for. -/
inductive Quotes : List Char → String → Prop
  | intro {q : Char} (hq : q = '\'' ∨ q = '"') {w : List Char} {s : String}
    (ends : stringTail q (w ++ [q]) = some (w.length + 1))
    (content : unescape? w = some s.toList) : Quotes (q :: (w ++ [q])) s

theorem Quotes.rule {s : String} (h : Quotes w s) (source : String) (rest : List Char)
    (position : Nat) :
    Token.rule source position (w ++ rest) = .token (.string s) w.length := by
  obtain @⟨q, hq, w, s, ends, content⟩ := h
  have tail (rest : List Char) : stringTail q (w ++ q :: rest) = some (w.length + 1) := by
    rw [List.append_cons]
    exact (stringTail_append ends rest).2.2
  have word : q :: (w ++ [q]) ++ rest = q :: (w ++ q :: rest) := by simp
  rw [word, rule_string hq tail content]
  simp

theorem quotes_quotedWord (s : String) : Quotes (quotedWord s) s :=
  .intro (.inl rfl) (stringTail_escape_append s.toList []) (unescape?_escape s.toList)

/-- A text in quotes is one token; what stands behind it is no matter. -/
theorem rule_quoted (s : String) (rest : List Char) (position : Nat) :
    rule source position (quotedWord s ++ rest) = .token (.string s) (quotedWord s).length := by
  have length : (quotedWord s).length = (escape s.toList).length + 2 := by simp [quotedWord]
  rw [quotedWord_append, length]
  exact rule_string (.inl rfl) (stringTail_escape_append s.toList) (unescape?_escape s.toList) rest
    position

theorem spells_quoted (s : String) : Spells (rule source) (quotedWord s) (.string s) :=
  ⟨by simp [quotedWord], fun position rest _ => rule_quoted s rest position⟩

end Token

end LinkedDocs.Template
