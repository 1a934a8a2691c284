import LinkedDocs.Proofs.ExpressionGrammar
import LinkedDocs.Proofs.TemplatePrinting

/-! Printing expressions and reading them back.

    An addition is put in parentheses where one is needed, and nowhere else. The words of an
    expression may stand side by side: a name or a number ends where a mark, a blank or the end of
    the text comes next, and the only mark that could go on with a number is a point, behind which a
    name stands. So the words are scanned to the tokens that the expression is written as, and the
    reader gives the expression back, whatever its texts contain. -/

namespace LinkedDocs.Expr

open Scan
open Template (quotedWord integerWord escape literalWord)

namespace Token

/-! ### The words of the language -/

variable {source : String} {c d : Char} {w cs rest : List Char} {n : Nat}

/-- The characters that are tokens by themselves. -/
def marks : List Char := ['.', '+', '[', ']', '(', ')']

theorem hashName?_eq_none (h : c ≠ '#') : hashName? (c :: cs) = none := by
  unfold hashName?
  split
  · next heq =>
    cases heq
    exact absurd rfl h
  · rfl

theorem number?_eq_none (minus : c ≠ '-') (digit : Text.isDigit c = false) :
    number? (c :: cs) = none := by
  have none : integerLength? (c :: cs) = none := by
    simp [integerLength?, minus, runLength, digit]
  rw [number?, none]

theorem string?_eq_none (single : c ≠ '\'') (double : c ≠ '"') : string? (c :: cs) = none := by
  rw [string?, Template.stringLength?_eq_none single double]
  rfl

theorem word?_eq_none (h : isNameStart c = false) : word? (c :: cs) = none := by
  simp [word?, h]

/-- Where no blank comes next, the first rule that applies gives the token, unless it is a numeral
    that is too long. -/
theorem rule_eq_of {t : Token} (gap : isGap c = false) (first : first? (c :: cs) = some (t, n))
    (position : Nat) :
    rule source position (c :: cs) = .of t.isNumeral ((c :: cs).take n) t n := by
  rw [rule, gap, first]
  rfl

theorem rule_eq_token {t : Token} (gap : isGap c = false) (first : first? (c :: cs) = some (t, n))
    (readable : t.isNumeral = true → Text.isReadable ((c :: cs).take n) = true) (position : Nat) :
    rule source position (c :: cs) = .token t n := by
  rw [rule_eq_of gap first, Lexeme.of_eq_self readable]

theorem rule_mark {t : Token} (h : ofMark? c = some t) (rest : List Char) (position : Nat) :
    rule source position (c :: rest) = .token t 1 := by
  have other : isGap c = false ∧ c ≠ '#' ∧ c ≠ '-' ∧ Text.isDigit c = false ∧ c ≠ '\'' ∧ c ≠ '"' ∧
      isNameStart c = false := by
    unfold ofMark? at h
    split at h <;> first | decide | cases h
  obtain ⟨gap, hash, minus, digit, single, double, start⟩ := other
  refine rule_eq_token gap ?_ (by simp [isNumeral_ofMark? h]) position
  rw [first?, hashName?_eq_none hash, number?_eq_none minus digit, string?_eq_none single double,
    word?_eq_none start, mark?, h]
  rfl

theorem rule_word (hc : isNameStart c = true) (hw : ∀ d ∈ w, isNameChar d = true)
    (hrest : EndsAt marks rest) (position : Nat) :
    rule source position (c :: w ++ rest) = .token (ofWord (String.ofList (c :: w))) (w.length + 1) := by
  obtain ⟨gap, single, double, -, -, minus, digit⟩ := Template.Token.of_isNameStart hc
  have hash : c ≠ '#' := by
    rintro rfl
    exact absurd hc (by decide)
  have run : runLength isNameChar (w ++ rest) = w.length :=
    runLength_append hw (hrest.head (by decide))
  have word : word? (c :: (w ++ rest)) = some (ofWord (String.ofList (c :: w)), w.length + 1) := by
    simp [word?, hc, run]
  refine rule_eq_token gap ?_ (by simp [isNumeral_ofWord]) position
  rw [List.append_eq, first?, hashName?_eq_none hash, number?_eq_none minus digit,
    string?_eq_none single double, word]
  rfl

theorem rule_variable (hc : isLetter c = true) (hw : ∀ d ∈ w, isVariableChar d = true)
    (hrest : EndsAt marks rest) (position : Nat) : rule source position ('#' :: c :: w ++ rest)
      = .token (.variable (String.ofList (c :: w))) (w.length + 2) := by
  have run : runLength isVariableChar (w ++ rest) = w.length :=
    runLength_append hw (hrest.head (by decide))
  refine rule_eq_token (by decide) ?_ (by simp [isNumeral]) position
  simp [first?, hashName?, hc, run]

/-- The rule finds an integer in a numeral, if it is not too long. -/
theorem rule_numeral {sign ds : List Char} (h : IsNumeral sign ds) (hrest : EndsAt marks rest)
    (fraction : fractionLength? rest = none) (position : Nat) :
    rule source position (sign ++ ds ++ rest)
      = .of true (sign ++ ds) (.integer (numeralValue sign ds)) (sign ++ ds).length := by
  have number : number? (sign ++ ds ++ rest)
      = some (.integer (numeralValue sign ds), (sign ++ ds).length) := by
    simp only [number?, h.integerLength? (hrest.head (by decide)), List.drop_left, fraction,
      List.take_left, h.integerValue]
  have text : (sign ++ ds ++ rest).take (sign ++ ds).length = sign ++ ds := List.take_left
  obtain ⟨c, w, hw, hc⟩ := h.exists_cons
  obtain ⟨gap, -, -, -, -, hash⟩ := Template.Token.of_isDigit hc
  rw [hw, List.cons_append] at number text ⊢
  have first : first? (c :: (w ++ rest))
      = some (.integer (numeralValue sign ds), (c :: w).length) := by
    rw [first?, hashName?_eq_none hash, number]
    rfl
  rw [rule_eq_of gap first, text]
  rfl

theorem rule_overlong {sign ds : List Char} (h : IsNumeral sign ds)
    (long : Text.digitLimit < ds.length) (hrest : EndsAt marks rest)
    (fraction : fractionLength? rest = none) (position : Nat) :
    rule source position (sign ++ ds ++ rest) = .failure (.misuse .content) := by
  rw [rule_numeral h hrest fraction, Lexeme.of_overlong]
  rw [h.isReadable]
  exact decide_eq_false (Nat.not_le.2 long)

theorem rule_integer {n : Int} (hn : Text.isWritable n = true) (hrest : EndsAt marks rest)
    (fraction : fractionLength? rest = none) (position : Nat) :
    rule source position (integerWord n ++ rest)
      = .token (.integer n) (integerWord n).length := by
  obtain ⟨sign, hword, h, hvalue⟩ := exists_numeral n
  rw [integerWord, hword, rule_numeral h hrest fraction, hvalue, Lexeme.of_eq_self]
  intro _
  rw [h.isReadable]
  exact hn

/-- A number may be written in the digits of any script, if they are not too many. -/
theorem rule_digits {ds : List Char} (some : ds ≠ []) (digits : ∀ d ∈ ds, Text.isDigit d = true)
    (hrest : EndsAt marks rest) (fraction : fractionLength? rest = none) (position : Nat) :
    rule source position (ds ++ rest)
      = .of true ds (.integer (Text.integerValue ds)) ds.length := by
  have number : number? (ds ++ rest) = .some (.integer (Text.integerValue ds), ds.length) := by
    simp only [number?, integerLength?_digits some digits (hrest.head (by decide)),
      List.drop_left, fraction, List.take_left]
  have text : (ds ++ rest).take ds.length = ds := List.take_left
  obtain ⟨d, ds, rfl⟩ := List.exists_cons_of_ne_nil some
  have digit := digits d List.mem_cons_self
  have hash : d ≠ '#' := by
    rintro rfl
    exact absurd digit (by decide)
  have gap : isGap d = false := by
    refine Bool.eq_false_iff.2 fun gap => ?_
    rw [of_isGap (p := Text.isDigit) (by decide) gap] at digit
    cases digit
  rw [List.cons_append] at number text ⊢
  have first : first? (d :: (ds ++ rest))
      = .some (.integer (Text.integerValue (d :: ds)), (d :: ds).length) := by
    rw [first?, hashName?_eq_none hash, number]
    rfl
  rw [rule_eq_of gap first, text]
  rfl

theorem rule_index {ds : List Char} {n : Nat} (h : IsIndex ds n) (hrest : EndsAt marks rest)
    (fraction : fractionLength? rest = none) (position : Nat) :
    rule source position (ds ++ rest) = .token (.integer n) ds.length := by
  rw [rule_digits h.ne_nil h.digits hrest fraction, h.integerValue,
    Lexeme.of_eq_self fun _ => h.isReadable]

/-! ### Quoted texts -/

theorem stripEscapes_special (h : c ≠ '\n') (cs : List Char) :
    stripEscapes ('\\' :: c :: cs) = c :: stripEscapes cs := by
  rw [stripEscapes, if_pos ⟨rfl, h⟩]

theorem stripEscapes_plain (h : c ≠ '\\') (cs : List Char) :
    stripEscapes (c :: cs) = c :: stripEscapes cs := by
  cases cs with
  | nil => rfl
  | cons d cs => rw [stripEscapes, if_neg fun both => h both.1]

theorem stripEscapes_escape (cs : List Char) : stripEscapes (escape cs) = cs := by
  induction cs with
  | nil => rfl
  | cons c cs ih =>
    by_cases special : c = '\'' ∨ c = '\\'
    · have line : c ≠ '\n' := by
        rintro rfl
        revert special
        decide
      rw [Template.Token.escape_cons_special special, stripEscapes_special line, ih]
    · rw [Template.Token.escape_cons_plain special, stripEscapes_plain (not_or.1 special).2, ih]

/-- A text in quotes is one token; what stands behind it is no matter. -/
theorem rule_quoted (s : String) (rest : List Char) (position : Nat) :
    rule source position (quotedWord s ++ rest) = .token (.string s) (quotedWord s).length := by
  have string : string? (quotedWord s ++ rest) = some (.string s, (quotedWord s).length) := by
    rw [string?, Template.Token.stringLength?_quotedWord]
    simp [Template.Token.unquoted_quotedWord, stripEscapes_escape]
  rw [Template.Token.quotedWord_append] at string ⊢
  refine rule_eq_token (by decide) ?_ (by simp [isNumeral]) position
  rw [first?, hashName?_eq_none (by decide), number?_eq_none (by decide) (by decide), string]
  rfl

end Token

/-! ### What is printed -/

/-- A literal, if it is null, a truth value, an integer or a text. -/
def literalPrinted : Value → List Char
  | .text s => quotedWord s
  | v => literalWord v

def Key.printed : Key → List Char
  | .integer n => integerWord n
  | .text s => quotedWord s

/-- The words of an expression to the right of a plus and in front of a property or an index, given
    its own: an addition is put in parentheses. -/
def grouped (e : Expr) (words : List (List Char)) : List (List Char) :=
  match e with
  | .add .. => ['('] :: words ++ [[')']]
  | _ => words

/-- The words of an expression. -/
def printed : Expr → List (List Char)
  | .literal v => [literalPrinted v]
  | .variable name => ['#' :: name.toList]
  | .root name => [name.toList]
  | .parameter n => [['['], integerWord n, [']']]
  | .property e name => grouped e e.printed ++ [['.'], name.toList]
  | .index e key => grouped e e.printed ++ [['['], key.printed, [']']]
  | .add l r => l.printed ++ ['+'] :: grouped r r.printed

/-- A name that is not a reserved word. -/
inductive IsName : String → Prop
  | mk {c : Char} {cs : List Char} (hc : Token.isNameStart c = true)
    (hcs : ∀ d ∈ cs, Token.isNameChar d = true)
    (hfree : Keyword.ofWord? (String.ofList (c :: cs)) = none) : IsName (String.ofList (c :: cs))

/-- A key that is a text or an integer that can be written. -/
inductive Key.IsPrintable : Key → Prop
  | integer {n : Int} (h : Text.isWritable n = true) : IsPrintable (.integer n)
  | text (s : String) : IsPrintable (.text s)

/-- The literals are null, truth values, integers and texts, and all names are lexically valid and
    not reserved; the names of variables may be reserved words. All integers can be written. -/
inductive IsPrintable : Expr → Prop
  | null : IsPrintable (.literal .null)
  | bool (b : Bool) : IsPrintable (.literal (.bool b))
  | int {n : Int} (h : Text.isWritable n = true) : IsPrintable (.literal (.int n))
  | text (s : String) : IsPrintable (.literal (.text s))
  | hash {c : Char} {cs : List Char} (hc : isLetter c = true)
    (hcs : ∀ d ∈ cs, Token.isVariableChar d = true) :
    IsPrintable (.variable (String.ofList (c :: cs)))
  | root {name : String} (h : IsName name) : IsPrintable (.root name)
  | parameter {n : Int} (h : Text.isWritable n = true) : IsPrintable (.parameter n)
  | property {e : Expr} {name : String} (h : IsPrintable e) (hn : IsName name) :
    IsPrintable (.property e name)
  | index {e : Expr} {key : Key} (h : IsPrintable e) (hk : key.IsPrintable) :
    IsPrintable (.index e key)
  | add {l r : Expr} (hl : IsPrintable l) (hr : IsPrintable r) : IsPrintable (.add l r)

/-! ### What ends a word -/

/-- No name and no number goes on into the text: it is over, or a blank or a mark comes next, which
    is no point in front of digits. -/
def Ends (rest : List Char) : Prop := EndsAt Token.marks rest ∧ fractionLength? rest = none

/-- A blank or a mark other than a point. -/
theorem Ends.of_endsAt {marks rest : List Char} (h : EndsAt marks rest)
    (hm : ∀ c ∈ marks, c ∈ Token.marks ∧ c ≠ '.') : Ends rest := by
  refine ⟨fun c hc => (h c hc).imp_right fun mark => (hm c mark).1, fractionLength?_eq_none ?_⟩
  rintro c hc rfl
  rcases h '.' hc with gap | mark
  · exact absurd gap (by decide)
  · exact (hm '.' mark).2 rfl

theorem ends_nil {cs : List Char} (h : Laid [] cs) : Ends cs :=
  .of_endsAt (h.endsAt (fun _ hw => nomatch hw) : EndsAt [] cs) nofun

theorem ends_mark {c : Char} (hc : c ∈ Token.marks ∧ c ≠ '.') {ws : List (List Char)}
    {cs : List Char} (h : Laid ([c] :: ws) cs) : Ends cs := by
  refine .of_endsAt (h.endsAt_word (w := [])) fun d hd => ?_
  rw [List.mem_singleton.1 hd]
  exact hc

/-- Behind a point stands a name, which is no fraction. -/
theorem ends_point {c : Char} {w cs : List Char} (digit : Text.isDigit c = false)
    {ws : List (List Char)} (h : Laid (['.'] :: (c :: w) :: ws) cs) : Ends cs := by
  refine ⟨fun d hd => (h.endsAt_word d hd).imp_right fun mark => ?_, ?_⟩
  · rw [List.mem_singleton.1 mark]
    decide
  · cases h with
    | blank hc _ =>
      refine fractionLength?_eq_none ?_
      rintro d ⟨⟩ rfl
      exact absurd hc (by decide)
    | @word _ _ cs h =>
      have none : runLength Text.isDigit cs = 0 := by
        refine runLength_append (w := []) nofun fun d hd => ?_
        rcases h.endsAt_word d hd with gap | mark
        · exact of_isGap (by decide) gap
        · rw [List.mem_singleton.1 mark, digit]
      simp [fractionLength?, none]

/-! ### The tokens of what is printed -/

variable {source : String}

/-- Words that are scanned to given tokens wherever the last of them ends. -/
abbrev Scanned (source : String) : List (List Char) → List Token → Prop :=
  ScansTo (Token.rule source) .token Ends

/-- A mark is taken whatever comes next. -/
theorem Scanned.mark {c : Char} {a : Token} {ws : List (List Char)} {ts : List Token}
    (hc : Token.ofMark? c = some a) (h : Scanned source ws ts) :
    Scanned source ([c] :: ws) (a :: ts) :=
  .closed (List.cons_ne_nil _ _) (Token.rule_mark hc) h

/-- Words that go on with a mark other than a point. -/
theorem Scanned.append_mark {c : Char} {a : Token} {ws ws' : List (List Char)} {ts ts' : List Token}
    (h : Scanned source ws ts) (ha : Token.ofMark? c = some a) (hc : c ∈ Token.marks ∧ c ≠ '.')
    (h' : Scanned source ws' ts') : Scanned source (ws ++ [c] :: ws') (ts ++ a :: ts') :=
  ScansTo.append h (Scanned.mark ha h') fun _ _ => ends_mark hc

theorem scanned_integer {n : Int} (hn : Text.isWritable n = true) :
    Scanned source [integerWord n] [.integer n] := by
  refine .one ?_ fun rest position ends => Token.rule_integer hn ends.1 ends.2 position
  obtain ⟨sign, hword, h, -⟩ := exists_numeral n
  rw [integerWord, hword]
  exact List.append_ne_nil_of_right_ne_nil _ h.ne_nil

theorem scanned_quoted (s : String) : Scanned source [quotedWord s] [.string s] :=
  .closed (List.cons_ne_nil _ _) (Token.rule_quoted s) .nil

theorem scanned_keyword (k : Keyword) : Scanned source [k.word.toList] [.keyword k] := by
  have reserved : Token.ofWord k.word = .keyword k := by
    rw [Token.ofWord, Keyword.ofWord?_word]
  obtain ⟨c, w, hword, hc, hw⟩ := Template.Token.keyword_letters k
  rw [← reserved, ← String.ofList_toList (s := k.word), String.toList_ofList, hword]
  exact .one (List.cons_ne_nil _ _) fun _ position ends =>
    Token.rule_word hc (fun d hd => by simp [Token.isNameChar, hw d hd]) ends.1 position

theorem IsName.scanned {name : String} (h : IsName name) :
    Scanned source [name.toList] [.name name] := by
  cases h with
  | @mk c cs hc hcs hfree =>
    have free : Token.ofWord (String.ofList (c :: cs)) = .name (String.ofList (c :: cs)) := by
      rw [Token.ofWord, hfree]
    rw [← free, String.toList_ofList]
    exact .one (List.cons_ne_nil _ _) fun _ position ends =>
      Token.rule_word hc hcs ends.1 position

theorem Key.IsPrintable.scanned {key : Key} (h : key.IsPrintable) :
    ∃ k, WritesKey key k ∧ Scanned source [key.printed] [k] := by
  cases h with
  | integer hn => exact ⟨_, .integer _, scanned_integer hn⟩
  | text s => exact ⟨_, .text s, scanned_quoted s⟩

/-- The words of an expression are scanned to what it is written as, and so are those it has where
    an addition needs parentheses. -/
structure Readable (source : String) (e : Expr) : Prop where
  whole : ∃ ts, Scanned source e.printed ts ∧ Yields e ts
  term : ∃ ts, Scanned source (grouped e e.printed) ts ∧ YieldsTerm e ts

/-- An expression that needs no parentheses anywhere. -/
theorem Readable.of_term {e : Expr} (hgroup : grouped e e.printed = e.printed) {ts : List Token}
    (hs : Scanned source e.printed ts) (hy : YieldsTerm e ts) : Readable source e :=
  ⟨⟨ts, hs, .term hy⟩, ts, by rw [hgroup]; exact hs, hy⟩

theorem IsPrintable.readable {e : Expr} (h : e.IsPrintable) : Readable source e := by
  induction h with
  | null => exact .of_term rfl (scanned_keyword .nothing) (.operand (.keyword .nothing))
  | bool b =>
    cases b with
    | true => exact .of_term rfl (scanned_keyword .yes) (.operand (.keyword .yes))
    | false => exact .of_term rfl (scanned_keyword .no) (.operand (.keyword .no))
  | int hn => exact .of_term rfl (scanned_integer hn) (.operand (.integer _))
  | text s => exact .of_term rfl (scanned_quoted s) (.operand (.text s))
  | hash hc hcs =>
    refine .of_term rfl ?_ (.operand (.variable _))
    rw [printed, String.toList_ofList]
    exact .one (List.cons_ne_nil _ _) fun _ position ends =>
      Token.rule_variable hc hcs ends.1 position
  | root h => exact .of_term rfl h.scanned (.operand (.root _))
  | parameter hn =>
    refine .of_term rfl (Scanned.mark rfl ?_) (.parameter _)
    exact Scanned.append_mark (scanned_integer hn) rfl (by decide) .nil
  | property h hn ih =>
    obtain ⟨ts, hs, hy⟩ := ih.term
    refine .of_term rfl (ScansTo.append hs (Scanned.mark rfl hn.scanned) ?_) (.property hy _)
    obtain ⟨hc, hcs, hfree⟩ := hn
    rw [String.toList_ofList]
    exact fun _ _ => ends_point (Template.Token.of_isNameStart hc).2.2.2.2.2.2
  | index h hkey ih =>
    obtain ⟨ts, hs, hy⟩ := ih.term
    obtain ⟨k, hwrites, hk⟩ := hkey.scanned
    refine .of_term rfl (Scanned.append_mark hs rfl (by decide) ?_) (.index hy hwrites)
    exact Scanned.append_mark hk rfl (by decide) .nil
  | add hl hr ihl ihr =>
    obtain ⟨ts, hs, hy⟩ := ihl.whole
    obtain ⟨us, hs', hy'⟩ := ihr.term
    have words := Scanned.append_mark (c := '+') hs rfl (by decide) hs'
    have yields := Yields.add hy hy'
    refine ⟨⟨_, words, yields⟩, _, ?_, .group yields⟩
    exact Scanned.mark rfl (Scanned.append_mark words rfl (by decide) .nil)

/-! ### Reading back -/

theorem rule_gap (source : String) (position : Nat) (c : Char) (cs : List Char)
    (h : isGap c = true) : Token.rule source position (c :: cs) = .skip := by
  rw [Token.rule, if_pos h]

/-- Words that are scanned to what an expression is written as are read as it. -/
theorem parse_scanned {e : Expr} {source : String} {ws : List (List Char)} {ts : List Token}
    (hscan : Scanned source ws ts) (hyield : Yields e ts) (hs : Laid ws source.toList) :
    parse source = .ok e := by
  have reads := hscan [] [] (fun _ => ends_nil) .nil
  rw [List.append_nil, List.append_nil] at reads
  obtain ⟨ending, tokens⟩ := hs.scanFrom (rule_gap source) reads 0
  refine parse_eq_ok.2 ⟨_, result_eq_ok.2 ⟨ending, rfl⟩, ?_⟩
  rw [Token.scan, tokens]
  exact hyield

/-- A printed expression is read back, whatever blanks stand between its words, if any. -/
theorem parse_printed {e : Expr} {source : String} (h : e.IsPrintable)
    (hs : Laid e.printed source.toList) : parse source = .ok e := by
  obtain ⟨ts, hscan, hyield⟩ := (h.readable : Readable source e).whole
  exact parse_scanned hscan hyield hs

/-- The reader accepts exactly the grammar: it gives an expression just for the texts whose tokens
    the expression is written as, and fails as a language does for every other text, unless it comes
    to a numeral that is too long to be read. No tokens are written for two expressions, and every
    printed expression is read back. -/
theorem parse_reads_what_is_written (source : String) (e : Expr) :
    (parse source = .ok e ↔ ∃ ts, Token.tokens source = .ok ts ∧ Yields e (ts.map (·.token))) ∧
    ((¬∃ e ts, Token.tokens source = .ok ts ∧ Yields e (ts.map (·.token))) →
      (∃ fault, parse source = .error (.expression fault)) ∨
      parse source = .error (.misuse .content) ∧
        Token.tokens source = .error (.misuse .content) ∧ HasOverlong source.toList) ∧
    (∀ e' ts, Yields e ts → Yields e' ts → e = e') ∧
    (e.IsPrintable → Laid e.printed source.toList → parse source = .ok e) := by
  refine ⟨parse_eq_ok, fun none => ?_, fun _ _ => Yields.unique, parse_printed⟩
  rcases parse_cases source with ⟨e, he⟩ | fault
  · obtain ⟨ts, hts⟩ := parse_eq_ok.1 he
    exact absurd ⟨e, ts, hts⟩ none
  · exact fault

/-- A numeral that is too long is no expression, and it is not reported as a fault. -/
theorem parse_overlong {sign ds : List Char} (h : IsNumeral sign ds)
    (long : Text.digitLimit < ds.length) :
    parse (String.ofList (sign ++ ds)) = .error (.misuse .content) := by
  have rule : Token.rule (String.ofList (sign ++ ds)) 0 (sign ++ ds ++ []) = _ :=
    Token.rule_overlong h long atGap_nil.endsAt rfl 0
  rw [List.append_nil] at rule
  have scan := scanFrom_failure (List.append_ne_nil_of_right_ne_nil sign h.ne_nil) rule
  rw [parse, Token.scan, String.toList_ofList, scan]
  rfl

/-- So not every text is an expression or a fault. -/
theorem overlong_expression_is_no_fault : ¬∀ source, (∃ e, parse source = .ok e) ∨
    ∃ fault, parse source = .error (.expression fault) := by
  intro h
  rcases h (String.ofList ([] ++ overlong)) with ⟨e, he⟩ | ⟨fault, hfault⟩
  · rw [parse_overlong overlong_isNumeral overlong_length] at he
    cases he
  · rw [parse_overlong overlong_isNumeral overlong_length] at hfault
    cases hfault

/-- A sum as a target and one on the right, a reserved word as a variable, and a quote in a key. -/
def sample : Expr :=
  .add (.property (.index (.add (.literal (.int 1)) (.variable "null")) (.text "it's")) "b")
    (.add (.root "a") (.parameter (-2)))

theorem sample_isPrintable : sample.IsPrintable := by
  have a : IsName "a" := @IsName.mk 'a' [] (by decide) nofun (by decide)
  have b : IsName "b" := @IsName.mk 'b' [] (by decide) nofun (by decide)
  have reserved : IsPrintable (.variable "null") :=
    @IsPrintable.hash 'n' ['u', 'l', 'l'] (by decide) (List.all_eq_true.1 (by decide))
  exact .add (.property (.index (.add (.int (by decide)) reserved) (.text _)) b)
    (.add (.root a) (.parameter (by decide)))

def sampleText : String := "(1 +#null)[ 'it\\'s'].b+(a+[-2])\n"

theorem sample_laid : Laid sample.printed sampleText.toList := by
  have text : sampleText.toList = ['('] ++ (['1'] ++ (' ' :: (['+'] ++ ("#null".toList ++ ([')'] ++
      (['['] ++ (' ' :: (quotedWord "it's" ++ ([']'] ++ (['.'] ++ (['b'] ++ (['+'] ++ (['('] ++
      (['a'] ++ (['+'] ++ (['['] ++ ("-2".toList ++ ([']'] ++ ([')'] ++
      '\n' :: []))))))))))))))))))) := by decide +kernel
  have words : sample.printed = [['('], ['1'], ['+'], "#null".toList, [')'], ['['],
      quotedWord "it's", [']'], ['.'], ['b'], ['+'], ['('], ['a'], ['+'], ['['], "-2".toList,
      [']'], [')']] := by decide +kernel
  rw [text, words]
  iterate 2 refine .word _ ?_
  refine .blank (by decide) ?_
  iterate 4 refine .word _ ?_
  refine .blank (by decide) ?_
  iterate 12 refine .word _ ?_
  exact .blank (by decide) .nil

theorem parse_sum_of_parts : parse sampleText = .ok sample ∧
    (∃ fault, parse "" = .error (.expression fault)) ∧
    ∀ e, Yields e [.name "a", .plus, .integer 1, .plus, .name "b"] →
      .add (.add (.root "a") (.literal (.int 1))) (.root "b") = e := by
  refine ⟨?_, ?_, fun e he => ?_⟩
  · exact (parse_reads_what_is_written sampleText sample).2.2.2 sample_isPrintable sample_laid
  · refine ((parse_reads_what_is_written "" sample).2.1 ?_).resolve_right nofun
    rintro ⟨e, ts, hts, h⟩
    cases hts
    exact h.ne_nil rfl
  · refine (parse_reads_what_is_written "" _).2.2.1 e _ ?_ he
    have left := Yields.add (.term (.operand (.root "a"))) (.operand (.integer 1))
    exact .add left (.operand (.root "b"))

end LinkedDocs.Expr
