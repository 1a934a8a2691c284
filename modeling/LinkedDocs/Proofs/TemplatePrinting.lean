import LinkedDocs.Proofs.TemplateGrammar
import LinkedDocs.Proofs.TemplateWords

/-! Printing templates and reading them back.

    A template is printed word by word, with blanks as one likes between the words. Every word is a
    token, the tokens are what the template is written as, and the reader accepts exactly that: so
    the template is read back, whatever its texts contain. Only integers with too many digits are
    not read back, nor reported as a fault. -/

namespace LinkedDocs.Template

open Scan

/-! ### What is printed -/

def Key.printed : Key → List Char
  | .name s => s.toList
  | .string s => quotedWord s
  | .placeholder n => placeholderWord n
  | .expression source => blockWord source

/-- A literal, if it is null, a truth value or an integer. -/
def literalWord : Value → List Char
  | .null => Keyword.nothing.word.toList
  | .bool b => (if b then Keyword.yes else Keyword.no).word.toList
  | v => v.plain.toList

mutual

/-- The words of a template. -/
def printed : Template → List (List Char)
  | .value v => [literalWord v]
  | .string s => [quotedWord s]
  | .placeholder n => [placeholderWord n]
  | .expression source => [blockWord source]
  | .objectId s => [Token.objectIdWord.toList, ['('], quotedWord s, [')']]
  | .array items => ['['] :: printedItems [] items ++ [[']']]
  | .document members => ['{'] :: printedMembers [] members ++ [['}']]
termination_by structural t => t

/-- The words of items, with `before` in front of the first of them and a comma before any other. -/
def printedItems (before : List (List Char)) : List Template → List (List Char)
  | [] => []
  | t :: ts => before ++ printed t ++ printedItems [[',']] ts
termination_by structural ts => ts

/-- The words of members, with `before` in front of the first and a comma before any other. -/
def printedMembers (before : List (List Char)) : List (Key × Template) → List (List Char)
  | [] => []
  | (key, t) :: ms => before ++ key.printed :: [':'] :: printed t ++ printedMembers [[',']] ms
termination_by structural ms => ms

end

/-- A key is a word, an integer, a quoted string, a placeholder or a block around an expression. The
    integers are those that can be written. -/
inductive Key.IsPrintable : Key → Prop
  | word {c : Char} {cs : List Char} (hc : Expr.Token.isNameStart c = true)
    (hcs : ∀ d ∈ cs, Token.isWordChar d = true) : IsPrintable (.name (String.ofList (c :: cs)))
  | integer {n : Int} (h : Text.isWritable n = true) : IsPrintable (.name (Value.int n).plain)
  | string (s : String) : IsPrintable (.string s)
  | placeholder {n : Nat} (h : Text.isWritable n = true) : IsPrintable (.placeholder n)
  | expression {source : String} {ts : List (Placed Expr.Token)}
    (h : Expr.Token.tokens source = .ok ts) : IsPrintable (.expression source)

/-- The literals are null, truth values and integers that can be written, the bare keys are words or
    integers, and the expressions are made of tokens. -/
inductive IsPrintable : Template → Prop
  | null : IsPrintable (.value .null)
  | bool (b : Bool) : IsPrintable (.value (.bool b))
  | int {n : Int} (h : Text.isWritable n = true) : IsPrintable (.value (.int n))
  | string (s : String) : IsPrintable (.string s)
  | placeholder {n : Nat} (h : Text.isWritable n = true) : IsPrintable (.placeholder n)
  | expression {source : String} {ts : List (Placed Expr.Token)}
    (h : Expr.Token.tokens source = .ok ts) : IsPrintable (.expression source)
  | objectId (s : String) : IsPrintable (.objectId s)
  | array {items : List Template} (h : ∀ t ∈ items, IsPrintable t) : IsPrintable (.array items)
  | document {members : List (Key × Template)} (hk : ∀ m ∈ members, m.1.IsPrintable)
    (h : ∀ m ∈ members, IsPrintable m.2) : IsPrintable (.document members)

/-! ### The tokens of what is printed -/

/-- Words that are scanned to given tokens, in any text. -/
def Scanned (ws : List (List Char)) (ts : List Token) : Prop :=
  ∀ source, List.Forall₂ (Spells (Token.rule source)) ws ts

theorem Scanned.one {w : List Char} {a : Token} (h : ∀ source, Spells (Token.rule source) w a) :
    Scanned [w] [a] := fun source => .cons (h source) .nil

theorem Scanned.append {ws ws' : List (List Char)} {ts ts' : List Token} (h : Scanned ws ts)
    (h' : Scanned ws' ts') : Scanned (ws ++ ws') (ts ++ ts') := fun source =>
  List.rel_append (h source) (h' source)

theorem Scanned.cons {w : List Char} {ws : List (List Char)} {a : Token} {ts : List Token}
    (hw : ∀ source, Spells (Token.rule source) w a) (h : Scanned ws ts) :
    Scanned (w :: ws) (a :: ts) := fun source => .cons (hw source) (h source)

theorem scanned_mark {c : Char} {a : Token} (h : Token.ofMark? c = some a) :
    Scanned [[c]] [a] := .one fun _ => Token.spells_mark h

/-- A word is a key, reserved or not. -/
theorem writesKey_ofWord (s : String) : WritesKey (.name s) (Token.ofWord s) := by
  unfold Token.ofWord
  split
  · next k hk =>
    rw [← Keyword.word_of_ofWord? hk]
    exact .keyword k
  · split
    · next hs =>
      rw [hs]
      exact .objectId
    · exact .word s

theorem Key.IsPrintable.scanned {key : Key} (h : key.IsPrintable) :
    ∃ k, WritesKey key k ∧ ∀ source, Spells (Token.rule source) key.printed k := by
  cases h with
  | @word c cs hc hcs =>
    refine ⟨_, writesKey_ofWord _, fun source => ?_⟩
    rw [printed, String.toList_ofList]
    exact Token.spells_word hc hcs
  | integer hn => exact ⟨_, .integer _, fun _ => Token.spells_integer hn⟩
  | string s => exact ⟨_, .string s, fun _ => Token.spells_quoted s⟩
  | placeholder hn => exact ⟨_, .placeholder _, fun _ => Token.spells_placeholder hn⟩
  | expression h => exact ⟨_, .expression _, fun _ => Token.spells_block h⟩

theorem spells_objectId (source : String) :
    Spells (Token.rule source) Token.objectIdWord.toList .objectId :=
  Token.spells_word (c := 'O') (w := ['b', 'j', 'e', 'c', 't', 'I', 'd']) (by decide)
    (List.all_eq_true.1 (by decide))

theorem printedItems_eq (items : List Template) :
    printedItems [[',']] items = items.flatMap fun t => [','] :: t.printed := by
  induction items with
  | nil => rfl
  | cons t items ih => rw [printedItems, ih, List.flatMap_cons, List.singleton_append]

/-- The words of a member. -/
def printedMember (m : Key × Template) : List (List Char) := m.1.printed :: [':'] :: m.2.printed

theorem printedMembers_eq (members : List (Key × Template)) :
    printedMembers [[',']] members = members.flatMap fun m => [','] :: printedMember m := by
  induction members with
  | nil => rfl
  | cons m members ih =>
    rw [printedMembers, ih, List.flatMap_cons, List.singleton_append]
    rfl

/-- Sequences with a comma before every element but the first: if each element is scanned to what
    it is written as, then a sequence may go on with them. -/
theorem scanned_more {α : Type} {element : α → List Token → Prop}
    (sequence : List α → List Token → Prop) {print : α → List (List Char)}
    (more : ∀ xs x us ts, sequence xs us → element x ts →
      sequence (xs ++ [x]) (us ++ .comma :: ts))
    {xs : List α} (h : ∀ x ∈ xs, ∃ ts, Scanned (print x) ts ∧ element x ts) :
    ∃ ts, Scanned (xs.flatMap fun x => [','] :: print x) ts ∧
      ∀ done us, sequence done us → sequence (done ++ xs) (us ++ ts) := by
  induction xs with
  | nil =>
    refine ⟨[], fun _ => .nil, fun done us hd => ?_⟩
    rw [List.append_nil, List.append_nil]
    exact hd
  | cons x xs ih =>
    obtain ⟨ts, hscan, hx⟩ := h x List.mem_cons_self
    obtain ⟨rest, hrest, hxs⟩ := ih fun y hy => h y (List.mem_cons_of_mem x hy)
    refine ⟨(.comma :: ts) ++ rest, ?_, fun done us hd => ?_⟩
    · rw [List.flatMap_cons]
      exact Scanned.append (.cons (fun _ => Token.spells_mark rfl) hscan) hrest
    · have next := hxs _ _ (more _ _ _ _ hd hx)
      rw [List.append_assoc, List.append_assoc] at next
      exact next

/-- A printed template is scanned to what the template is written as. -/
theorem IsPrintable.scanned {t : Template} (h : t.IsPrintable) :
    ∃ ts, Scanned t.printed ts ∧ Yields t ts := by
  induction h with
  | null => exact ⟨_, .one fun _ => Token.spells_keyword .nothing, .leaf (.keyword .nothing)⟩
  | bool b =>
    cases b with
    | true => exact ⟨_, .one fun _ => Token.spells_keyword .yes, .leaf (.keyword .yes)⟩
    | false => exact ⟨_, .one fun _ => Token.spells_keyword .no, .leaf (.keyword .no)⟩
  | int hn => exact ⟨_, .one fun _ => Token.spells_integer hn, .leaf (.integer _)⟩
  | string s => exact ⟨_, .one fun _ => Token.spells_quoted s, .leaf (.string s)⟩
  | placeholder hn => exact ⟨_, .one fun _ => Token.spells_placeholder hn, .leaf (.placeholder _)⟩
  | expression h => exact ⟨_, .one fun _ => Token.spells_block h, .leaf (.expression _)⟩
  | objectId s =>
    refine ⟨_, ?_, .objectId s⟩
    exact .cons spells_objectId (.cons (fun _ => Token.spells_mark rfl)
      (.cons (fun _ => Token.spells_quoted s) (scanned_mark rfl)))
  | @array items h ih =>
    cases items with
    | nil => exact ⟨_, (scanned_mark rfl).append (scanned_mark rfl), .emptyArray⟩
    | cons t items =>
      obtain ⟨ts, hscan, hyield⟩ := ih t List.mem_cons_self
      obtain ⟨more, hscan', hyields⟩ := scanned_more YieldsItems (fun _ _ _ _ => .more)
        fun u hu => ih u (List.mem_cons_of_mem t hu)
      refine ⟨_, ?_, .array (hyields _ _ (.one hyield)) .nothing⟩
      rw [printed, printedItems, printedItems_eq, List.append_nil]
      exact .cons (fun _ => Token.spells_mark rfl) ((hscan.append hscan').append (scanned_mark rfl))
  | @document members hk h ih =>
    have member : ∀ m ∈ members, ∃ ts, Scanned (printedMember m) ts ∧ YieldsMember m ts := by
      intro m hm
      obtain ⟨k, hwrites, hspells⟩ := (hk m hm).scanned
      obtain ⟨ts, hscan, hyield⟩ := ih m hm
      refine ⟨k :: .colon :: ts, ?_, .pair hwrites hyield⟩
      exact .cons hspells (.cons (fun _ => Token.spells_mark rfl) hscan)
    cases members with
    | nil => exact ⟨_, (scanned_mark rfl).append (scanned_mark rfl), .emptyDocument⟩
    | cons m members =>
      obtain ⟨ts, hscan, hyield⟩ := member m List.mem_cons_self
      obtain ⟨more, hscan', hyields⟩ := scanned_more YieldsMembers (fun _ _ _ _ => .more)
        fun m' hm => member m' (List.mem_cons_of_mem m hm)
      refine ⟨_, ?_, .document (hyields _ _ (.one hyield)) .nothing⟩
      rw [printed, printedMembers, printedMembers_eq, List.append_nil]
      exact .cons (fun _ => Token.spells_mark rfl) ((hscan.append hscan').append (scanned_mark rfl))

/-! ### Reading back -/

/-- A printed template is read back, whatever blanks stand between its words. -/
theorem parse_printed {t : Template} {source : String} (h : t.IsPrintable)
    (hs : Spaced t.printed source.toList) : parse source = .ok t := by
  obtain ⟨ts, hscan, hyield⟩ := h.scanned
  obtain ⟨ending, tokens⟩ := hs.scanFrom Token.rule_gap (hscan source) 0
  refine parse_eq_ok.2 ⟨_, result_eq_ok.2 ⟨ending, rfl⟩, ?_⟩
  rw [Token.scan, tokens]
  exact hyield

/-- The reader accepts exactly the grammar: it gives a template just for the texts whose tokens the
    template is written as, and fails as a language does for every other text, unless it comes to a
    numeral that is too long to be read. So it reads every printed template back. -/
theorem parse_accepts_the_grammar (source : String) (t : Template) :
    (parse source = .ok t ↔ ∃ ts, Token.tokens source = .ok ts ∧ Yields t (ts.map (·.token))) ∧
    ((¬∃ t ts, Token.tokens source = .ok ts ∧ Yields t (ts.map (·.token))) →
      (∃ fault, parse source = .error (.expression fault)) ∨
      parse source = .error (.misuse .content) ∧
        Token.tokens source = .error (.misuse .content) ∧ HasOverlong source.toList) ∧
    (t.IsPrintable → Spaced t.printed source.toList → parse source = .ok t) := by
  refine ⟨parse_eq_ok, fun none => ?_, parse_printed⟩
  rcases parse_cases source with ⟨t, ht⟩ | fault
  · obtain ⟨ts, hts⟩ := parse_eq_ok.1 ht
    exact absurd ⟨t, ts, hts⟩ none
  · exact fault

/-- A numeral that is too long is no template, and it is not reported as a fault. -/
theorem parse_overlong {sign ds : List Char} (h : IsNumeral sign ds)
    (long : Text.digitLimit < ds.length) :
    parse (String.ofList (sign ++ ds)) = .error (.misuse .content) := by
  have rule : Token.rule (String.ofList (sign ++ ds)) 0 (sign ++ ds ++ []) = _ :=
    Token.rule_overlong h long atGap_nil.endsAt 0
  rw [List.append_nil] at rule
  have scan := scanFrom_failure (List.append_ne_nil_of_right_ne_nil sign h.ne_nil) rule
  rw [parse, Token.scan, String.toList_ofList, scan]
  rfl

/-- So not every text is a template or a fault. -/
theorem overlong_template_is_no_fault : ¬∀ source, (∃ t, parse source = .ok t) ∨
    ∃ fault, parse source = .error (.expression fault) := by
  intro h
  rcases h (String.ofList ([] ++ overlong)) with ⟨t, ht⟩ | ⟨fault, hfault⟩
  · rw [parse_overlong overlong_isNumeral overlong_length] at ht
    cases ht
  · rw [parse_overlong overlong_isNumeral overlong_length] at hfault
    cases hfault

/-- A reserved word and a number as keys, a brace in a block and a quote in a text. -/
def sample : Template :=
  .document [(.name "null", .expression "a['\x7d']"),
    (.name "7", .array [.string "it's", .value (.bool true)])]

theorem sample_isPrintable : sample.IsPrintable := by
  have source : ∃ ts, Expr.Token.tokens "a['\x7d']" = .ok ts := ⟨_, rfl⟩
  obtain ⟨ts, hts⟩ := source
  refine .document ?_ ?_
  · simp only [List.forall_mem_cons]
    have key := @Key.IsPrintable.word 'n' ['u', 'l', 'l'] (by decide)
      (List.all_eq_true.1 (by decide))
    exact ⟨key, .integer (n := 7) (by decide), by simp⟩
  · simp only [List.forall_mem_cons]
    refine ⟨.expression hts, .array ?_, by simp⟩
    simp only [List.forall_mem_cons]
    exact ⟨.string _, .bool true, by simp⟩

def sampleText : String := "\x7b null : ?#\x7ba['\x7d']\x7d , 7 :\t[ 'it\\'s' , true ] \x7d\n"

theorem sample_spaced : Spaced sample.printed sampleText.toList := by
  have text : sampleText.toList = ['{'] ++ ' ' :: ("null".toList ++ ' ' :: ([':'] ++ ' ' ::
      (blockWord "a['\x7d']" ++ ' ' :: ([','] ++ ' ' :: ("7".toList ++ ' ' :: ([':'] ++ '\t' ::
      (['['] ++ ' ' :: (quotedWord "it's" ++ ' ' :: ([','] ++ ' ' :: ("true".toList ++ ' ' ::
      ([']'] ++ ' ' :: (['}'] ++ '\n' :: [])))))))))))) := by decide +kernel
  have words : sample.printed = [['{'], "null".toList, [':'], blockWord "a['\x7d']", [','],
      "7".toList, [':'], ['['], quotedWord "it's", [','], "true".toList, [']'], ['}']] := by
    decide +kernel
  rw [text, words]
  iterate 13 refine .word _ (by decide) ?_
  exact .nil

theorem parse_sample : parse sampleText = .ok sample ∧
    ∃ fault, parse "" = .error (.expression fault) := by
  constructor
  · exact (parse_accepts_the_grammar sampleText sample).2.2 sample_isPrintable sample_spaced
  · refine ((parse_accepts_the_grammar "" sample).2.1 ?_).resolve_right nofun
    rintro ⟨t, ts, hts, h⟩
    cases hts
    exact h.ne_nil rfl

end LinkedDocs.Template
