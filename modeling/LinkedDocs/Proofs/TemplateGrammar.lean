import LinkedDocs.Proofs.TemplateWords
import LinkedDocs.Template.Reading

/-! The grammar of templates and the reader of templates.

    A template is written as one token, as an object identifier, or as an array or a document around
    its items or members; a comma may stand behind the last of them. The reader accepts exactly what
    the grammar writes. Its states are read as what was seen so far: the containers still open, each
    with the items before the current one, and then the tokens that belong to what is being read.
    One token keeps this true, so a complete state has seen a template. Conversely a template takes
    the reader from where a value is needed to where that value is complete, whatever is open
    around. -/

namespace LinkedDocs.Template

open Scan

/-- The token that a key is written as. -/
inductive WritesKey : Key → Token → Prop
  | string (s : String) : WritesKey (.string s) (.string s)
  | placeholder (n : Nat) : WritesKey (.placeholder n) (.placeholder n)
  | expression (s : String) : WritesKey (.expression s) (.expression s)
  | word (s : String) : WritesKey (.name s) (.word s)
  | integer (n : Int) : WritesKey (.name (Value.int n).plain) (.integer n)
  | float (x : Float) : WritesKey (.name (Value.float x).plain) (.float x)
  | keyword (k : Keyword) : WritesKey (.name k.word) (.keyword k)
  | objectId : WritesKey (.name Token.objectIdWord) .objectId

/-- The token that a value is written as, if it is a single one. -/
inductive WritesLeaf : Template → Token → Prop
  | string (s : String) : WritesLeaf (.string s) (.string s)
  | placeholder (n : Nat) : WritesLeaf (.placeholder n) (.placeholder n)
  | expression (s : String) : WritesLeaf (.expression s) (.expression s)
  | integer (n : Int) : WritesLeaf (.value (.int n)) (.integer n)
  | float (x : Float) : WritesLeaf (.value (.float x)) (.float x)
  | keyword (k : Keyword) : WritesLeaf (.value k.value) (.keyword k)

/-- What may stand behind the last item or member. -/
inductive Trailing : List Token → Prop
  | nothing : Trailing []
  | comma : Trailing [.comma]

mutual

/-- The token sequences that a template is written as. -/
inductive Yields : Template → List Token → Prop
  | leaf {t : Template} {a : Token} (h : WritesLeaf t a) : Yields t [a]
  | objectId (s : String) : Yields (.objectId s) [.objectId, .openParen, .string s, .closeParen]
  | emptyArray : Yields (.array []) [.openBracket, .closeBracket]
  | array {items : List Template} {ts more : List Token} (h : YieldsItems items ts)
    (hmore : Trailing more) : Yields (.array items) (.openBracket :: ts ++ more ++ [.closeBracket])
  | emptyDocument : Yields (.document []) [.openBrace, .closeBrace]
  | document {members : List (Key × Template)} {ts more : List Token}
    (h : YieldsMembers members ts) (hmore : Trailing more) :
    Yields (.document members) (.openBrace :: ts ++ more ++ [.closeBrace])

/-- One item or more, with commas between them. -/
inductive YieldsItems : List Template → List Token → Prop
  | one {t : Template} {ts : List Token} (h : Yields t ts) : YieldsItems [t] ts
  | more {items : List Template} {t : Template} {ts us : List Token} (hs : YieldsItems items ts)
    (h : Yields t us) : YieldsItems (items ++ [t]) (ts ++ .comma :: us)

/-- A key, a colon and a value. -/
inductive YieldsMember : Key × Template → List Token → Prop
  | pair {key : Key} {k : Token} {t : Template} {ts : List Token} (hk : WritesKey key k)
    (h : Yields t ts) : YieldsMember (key, t) (k :: .colon :: ts)

/-- One member or more, with commas between them. -/
inductive YieldsMembers : List (Key × Template) → List Token → Prop
  | one {m : Key × Template} {ts : List Token} (h : YieldsMember m ts) : YieldsMembers [m] ts
  | more {members : List (Key × Template)} {m : Key × Template} {ts us : List Token}
    (hs : YieldsMembers members ts) (h : YieldsMember m us) :
    YieldsMembers (members ++ [m]) (ts ++ .comma :: us)

end

theorem leaf?_eq_some {a : Token} {t : Template} : a.leaf? = some t ↔ WritesLeaf t a := by
  constructor
  · intro h
    cases a <;> cases h <;> constructor
  · rintro ⟨⟩ <;> rfl

theorem key?_eq_some {k : Token} {key : Key} : k.key? = some key ↔ WritesKey key k := by
  constructor
  · intro h
    cases k <;> cases h <;> constructor
  · rintro ⟨⟩ <;> rfl

namespace ReaderState

/-- Runs the reader over tokens. -/
def run (s : ReaderState) (ts : List Token) : Option ReaderState := ts.foldlM step s

@[simp] theorem run_nil (s : ReaderState) : s.run [] = some s := rfl

@[simp] theorem run_cons (s : ReaderState) (a : Token) (ts : List Token) :
    s.run (a :: ts) = (s.step a).bind (·.run ts) := rfl

@[simp] theorem run_append (s : ReaderState) (ts us : List Token) :
    s.run (ts ++ us) = (s.run ts).bind (·.run us) := List.foldlM_append

/-! ### What a template is written as is accepted -/

/-- A leaf completes a value wherever a value may begin. -/
theorem begin_leaf {outer : List Frame} {t : Template} {a : Token} (h : WritesLeaf t a) :
    begin outer a = some ⟨outer, .separator t⟩ := by
  cases h <;> rfl

/-- What begins a value in an array is no closing bracket. -/
theorem step_item {outer : List Frame} {done : List Template} {a : Token} {s : ReaderState}
    (h : begin (.array done :: outer) a = some s) : step ⟨outer, .item done⟩ a = some s := by
  cases a <;> first | exact h | cases h

/-- The reader is in a state that needs a value, and `outer` is open around that value. -/
inductive NeedsValue (outer : List Frame) : ReaderState → Prop
  | value : NeedsValue outer ⟨outer, .value⟩
  | item {around : List Frame} {done : List Template} (h : outer = .array done :: around) :
    NeedsValue outer ⟨around, .item done⟩

theorem NeedsValue.step_eq {outer : List Frame} {s s' : ReaderState} {a : Token}
    (h : NeedsValue outer s) (hs : begin outer a = some s') : s.step a = some s' := by
  cases h with
  | value => exact hs
  | item h =>
    subst h
    exact step_item hs

theorem step_key {outer : List Frame} {done : List (Key × Template)} {key : Key} {k : Token}
    (h : WritesKey key k) : step ⟨outer, .member done⟩ k = some ⟨outer, .colon done key⟩ := by
  cases h <;> rfl

mutual

/-- A template takes the reader to where its value is complete. -/
theorem run_yields : ∀ {t : Template} {ts : List Token}, Yields t ts → ∀ {outer : List Frame}
    {s : ReaderState}, NeedsValue outer s → s.run ts = some ⟨outer, .separator t⟩
  | _, _, .leaf h, _, _, hs => by
    rw [run_cons, hs.step_eq (begin_leaf h), Option.bind_some, run_nil]
  | _, _, .objectId _, _, _, hs => by rw [run_cons, hs.step_eq rfl]; rfl
  | _, _, .emptyArray, _, _, hs => by rw [run_cons, hs.step_eq rfl]; rfl
  | _, _, .emptyDocument, _, _, hs => by rw [run_cons, hs.step_eq rfl]; rfl
  | _, _, .array h hmore, outer, _, hs => by
    obtain ⟨front, last, rfl, hrun⟩ := run_yieldsItems h outer
    rw [List.cons_append, List.cons_append, run_cons, hs.step_eq rfl, Option.bind_some, run_append,
      run_append, hrun]
    cases hmore <;> rfl
  | _, _, .document h hmore, outer, _, hs => by
    obtain ⟨front, last, rfl, hrun⟩ := run_yieldsMembers h outer
    rw [List.cons_append, List.cons_append, run_cons, hs.step_eq rfl, Option.bind_some, run_append,
      run_append, hrun]
    cases hmore <;> rfl

/-- The items of an array take the reader to where the last of them is complete. -/
theorem run_yieldsItems : ∀ {items : List Template} {ts : List Token}, YieldsItems items ts →
    ∀ outer : List Frame, ∃ front last, items = front ++ [last] ∧
      run ⟨outer, .item []⟩ ts = some ⟨.array front :: outer, .separator last⟩
  | _, _, .one h, _ => ⟨[], _, rfl, run_yields h (.item rfl)⟩
  | _, _, .more hs h, outer => by
    obtain ⟨front, last, rfl, hrun⟩ := run_yieldsItems hs outer
    refine ⟨front ++ [last], _, rfl, ?_⟩
    rw [run_append, hrun, Option.bind_some, run_cons]
    exact run_yields h (.item rfl)

/-- A member takes the reader to where its value is complete. -/
theorem run_yieldsMember : ∀ {m : Key × Template} {ts : List Token}, YieldsMember m ts →
    ∀ (outer : List Frame) (done : List (Key × Template)),
      run ⟨outer, .member done⟩ ts = some ⟨.document done m.1 :: outer, .separator m.2⟩
  | _, _, .pair hk h, _, _ => by
    rw [run_cons, step_key hk, Option.bind_some, run_cons]
    exact run_yields h .value

/-- The members of a document take the reader to where the last of them is complete. -/
theorem run_yieldsMembers : ∀ {members : List (Key × Template)} {ts : List Token},
    YieldsMembers members ts → ∀ outer : List Frame, ∃ front last, members = front ++ [last] ∧
      run ⟨outer, .member []⟩ ts = some ⟨.document front last.1 :: outer, .separator last.2⟩
  | _, _, .one h, outer => ⟨[], _, rfl, run_yieldsMember h outer []⟩
  | _, _, .more hs h, outer => by
    obtain ⟨front, last, rfl, hrun⟩ := run_yieldsMembers hs outer
    refine ⟨front ++ [last], _, rfl, ?_⟩
    rw [run_append, hrun, Option.bind_some, run_cons]
    exact run_yieldsMember h outer _

end

/-! ### What is accepted is what a template is written as -/

/-- What stands in an open container before the current item or member: nothing, or a sequence of
    the given kind and a comma. -/
inductive Done {α : Type} (sequence : List α → List Token → Prop) : List α → List Token → Prop
  | nothing : Done sequence [] []
  | some {xs : List α} {ts : List Token} (h : sequence xs ts) : Done sequence xs (ts ++ [.comma])

theorem Done.addItem {done : List Template} {t : Template} {ts us : List Token}
    (h : Done YieldsItems done ts) (ht : Yields t us) : YieldsItems (done ++ [t]) (ts ++ us) := by
  cases h with
  | nothing => exact .one ht
  | some h =>
    rw [List.append_assoc]
    exact .more h ht

theorem Done.addMember {done : List (Key × Template)} {m : Key × Template} {ts us : List Token}
    (h : Done YieldsMembers done ts) (hm : YieldsMember m us) :
    YieldsMembers (done ++ [m]) (ts ++ us) := by
  cases h with
  | nothing => exact .one hm
  | some h =>
    rw [List.append_assoc]
    exact .more h hm

/-- An array may end behind the items that are done. -/
theorem Done.closeArray {done : List Template} {ts : List Token} (h : Done YieldsItems done ts) :
    Yields (.array done) (.openBracket :: ts ++ [.closeBracket]) := by
  cases h with
  | nothing => exact .emptyArray
  | some h => exact .array h .comma

theorem Done.closeDocument {done : List (Key × Template)} {ts : List Token}
    (h : Done YieldsMembers done ts) :
    Yields (.document done) (.openBrace :: ts ++ [.closeBrace]) := by
  cases h with
  | nothing => exact .emptyDocument
  | some h => exact .document h .comma

/-- The tokens of the containers that are open, up to where the current value begins. -/
inductive Opens : List Frame → List Token → Prop
  | nothing : Opens [] []
  | array {outer : List Frame} {done : List Template} {ts us : List Token} (h : Opens outer ts)
    (hd : Done YieldsItems done us) : Opens (.array done :: outer) (ts ++ .openBracket :: us)
  | document {outer : List Frame} {done : List (Key × Template)} {key : Key} {k : Token}
    {ts us : List Token} (h : Opens outer ts) (hd : Done YieldsMembers done us)
    (hk : WritesKey key k) :
    Opens (.document done key :: outer) (ts ++ .openBrace :: us ++ [k, .colon])

/-- The tokens that the reader has seen in a state. -/
inductive Seen : ReaderState → List Token → Prop
  | value {outer : List Frame} {ts : List Token} (h : Opens outer ts) : Seen ⟨outer, .value⟩ ts
  | item {outer : List Frame} {done : List Template} {ts : List Token}
    (h : Opens (.array done :: outer) ts) : Seen ⟨outer, .item done⟩ ts
  | member {outer : List Frame} {done : List (Key × Template)} {ts us : List Token}
    (h : Opens outer ts) (hd : Done YieldsMembers done us) :
    Seen ⟨outer, .member done⟩ (ts ++ .openBrace :: us)
  | colon {outer : List Frame} {done : List (Key × Template)} {key : Key} {k : Token}
    {ts us : List Token} (h : Opens outer ts) (hd : Done YieldsMembers done us)
    (hk : WritesKey key k) :
    Seen ⟨outer, .colon done key⟩ (ts ++ .openBrace :: us ++ [k])
  | separator {outer : List Frame} {v : Template} {ts us : List Token} (h : Opens outer ts)
    (hv : Yields v us) : Seen ⟨outer, .separator v⟩ (ts ++ us)
  | objectIdOpen {outer : List Frame} {ts : List Token} (h : Opens outer ts) :
    Seen ⟨outer, .objectIdOpen⟩ (ts ++ [.objectId])
  | objectIdText {outer : List Frame} {ts : List Token} (h : Opens outer ts) :
    Seen ⟨outer, .objectIdText⟩ (ts ++ [.objectId, .openParen])
  | objectIdClose {outer : List Frame} {ts : List Token} (s : String) (h : Opens outer ts) :
    Seen ⟨outer, .objectIdClose s⟩ (ts ++ [.objectId, .openParen, .string s])

variable {outer : List Frame} {s s' : ReaderState} {a : Token} {ts us : List Token}

theorem begin_seen (h : Opens outer ts) (hs : begin outer a = some s) : Seen s (ts ++ [a]) := by
  have leaf : ∀ t, a.leaf? = some t → Seen ⟨outer, .separator t⟩ (ts ++ [a]) := by
    intro t ht
    exact .separator h (.leaf (leaf?_eq_some.1 ht))
  cases a <;> cases hs
  case openBrace => exact .member h .nothing
  case openBracket => exact .item (.array h .nothing)
  case objectId => exact .objectIdOpen h
  all_goals exact leaf _ rfl

/-- A complete value is followed by a comma or by the end of the container around it. -/
theorem proceed_seen {v : Template} (h : Opens outer ts) (hv : Yields v us)
    (hs : proceed outer v a = some s) : Seen s (ts ++ us ++ [a]) := by
  cases h with
  | nothing => cases hs
  | @array outer done ts ws h hd =>
    have items := hd.addItem hv
    cases a <;> cases hs
    case array.comma.refl =>
      have tokens : ts ++ .openBracket :: ws ++ us ++ [.comma]
          = ts ++ .openBracket :: (ws ++ us ++ [Token.comma]) := by simp
      rw [tokens]
      exact .item (.array h (.some items))
    case array.closeBracket.refl =>
      have tokens : ts ++ .openBracket :: ws ++ us ++ [.closeBracket]
          = ts ++ (.openBracket :: (ws ++ us) ++ [] ++ [Token.closeBracket]) := by simp
      rw [tokens]
      exact .separator h (.array items .nothing)
  | @document outer done key k ts ws h hd hk =>
    have members := hd.addMember (.pair hk hv)
    cases a <;> cases hs
    case document.comma.refl =>
      have tokens : ts ++ .openBrace :: ws ++ [k, .colon] ++ us ++ [.comma]
          = ts ++ .openBrace :: (ws ++ k :: .colon :: us ++ [Token.comma]) := by simp
      rw [tokens]
      exact .member h (.some members)
    case document.closeBrace.refl =>
      have tokens : ts ++ .openBrace :: ws ++ [k, .colon] ++ us ++ [.closeBrace]
          = ts ++ (.openBrace :: (ws ++ k :: .colon :: us) ++ [] ++ [Token.closeBrace]) := by simp
      rw [tokens]
      exact .separator h (.document members .nothing)

/-- One token keeps what a state says about the tokens seen. -/
theorem Seen.step (h : Seen s ts) (hs : s.step a = some s') : Seen s' (ts ++ [a]) := by
  cases h with
  | value h => exact begin_seen h hs
  | item h =>
    -- The reader looks for the end of the container first; any other token begins an item.
    by_cases ha : a = .closeBracket
    · subst ha
      cases hs
      cases h with
      | array h hd =>
        rw [List.append_assoc]
        exact .separator h hd.closeArray
    · refine begin_seen h ?_
      rw [← hs]
      cases a <;> first | rfl | exact absurd rfl ha
  | @member outer done ts us h hd =>
    by_cases ha : a = .closeBrace
    · subst ha
      cases hs
      rw [List.append_assoc]
      exact .separator h hd.closeDocument
    · have key : (a.key?).map (fun k => (⟨outer, .colon done k⟩ : ReaderState)) = some s' := by
        rw [← hs]
        cases a <;> first | rfl | exact absurd rfl ha
      obtain ⟨k, hk, rfl⟩ := Option.map_eq_some_iff.1 key
      exact .colon h hd (key?_eq_some.1 hk)
  | colon h hd hk =>
    cases a <;> cases hs
    rw [List.append_assoc]
    exact .value (.document h hd hk)
  | separator h hv => exact proceed_seen h hv hs
  | objectIdOpen h =>
    cases a <;> cases hs
    rw [List.append_assoc]
    exact .objectIdText h
  | objectIdText h =>
    cases a <;> cases hs
    rw [List.append_assoc]
    exact .objectIdClose _ h
  | objectIdClose x h =>
    cases a <;> cases hs
    rw [List.append_assoc]
    exact .separator h (.objectId x)

/-- Induction on the tokens still to come. -/
theorem Seen.run (h : Seen s ts) (hs : s.run us = some s') : Seen s' (ts ++ us) := by
  induction us generalizing s ts with
  | nil =>
    cases hs
    rw [List.append_nil]
    exact h
  | cons a us ih =>
    obtain ⟨s₁, h₁, hs⟩ := Option.bind_eq_some_iff.1 hs
    have next := ih (h.step h₁) hs
    rw [List.append_assoc] at next
    exact next

theorem finish_eq_some {t : Template} : s.finish = some t ↔ s = ⟨[], .separator t⟩ := by
  obtain ⟨outer, need⟩ := s
  cases outer <;> cases need <;> simp [finish]

/-- The reader accepts exactly the token sequences that a template is written as. -/
theorem run_finish_iff {t : Template} :
    (∃ s, start.run ts = some s ∧ s.finish = some t) ↔ Yields t ts := by
  constructor
  · rintro ⟨s, hs, hf⟩
    have seen := (Seen.value .nothing).run hs
    rw [finish_eq_some.1 hf] at seen
    cases seen with
    | separator h hv =>
      cases h
      exact hv
  · intro h
    exact ⟨_, run_yields h .value, rfl⟩

end ReaderState

theorem Yields.ne_nil {t : Template} {ts : List Token} (h : Yields t ts) : ts ≠ [] := by
  rintro rfl
  obtain ⟨s, hs, hf⟩ := ReaderState.run_finish_iff.2 h
  cases hs
  cases hf

/-! ### Reading texts -/

/-- A template is read off a text exactly if the text is made of tokens that it is written as. -/
theorem parse_eq_ok {source : String} {t : Template} :
    parse source = .ok t ↔
      ∃ ts, Token.tokens source = .ok ts ∧ Yields t (ts.map (·.token)) := by
  rw [parse, Reader.read_eq_ok]
  constructor
  · rintro ⟨ts, s, hts, hs, hf⟩
    exact ⟨ts, hts, ReaderState.run_finish_iff.1 ⟨s, hs, hf⟩⟩
  · rintro ⟨ts, hts, h⟩
    obtain ⟨s, hs, hf⟩ := ReaderState.run_finish_iff.2 h
    exact ⟨ts, s, hts, hs, hf⟩

/-- A text that is one token is read as the value that the token is. -/
theorem parse_leaf {source : String} {a : Token} {t : Template} (hw : source.toList ≠ [])
    (h : Token.rule source 0 source.toList = .token a source.toList.length) (leaf : WritesLeaf t a) :
    parse source = .ok t := by
  refine parse_eq_ok.2 ⟨[⟨a, 0⟩], result_eq_ok.2 ?_, .leaf leaf⟩
  have scan : scanFrom (Token.rule source) 0 0 (source.toList ++ []) = _ :=
    scanFrom_word hw (by rw [List.append_nil]; exact h)
  rw [List.append_nil] at scan
  rw [Token.scan, scan]
  exact ⟨rfl, rfl⟩

theorem fault_of_unescape {content source : String} {f : Failure}
    (h : unescape content source = .error f) : ∃ e, f = .expression e := by
  unfold unescape at h
  split at h <;> cases h
  exact ⟨_, rfl⟩

theorem Token.fault_of_delimited {source : String} {cs : List Char} {f : Failure}
    (h : Token.delimited? source cs = some (.failure f)) : ∃ e, f = .expression e := by
  unfold Token.delimited? at h
  split at h
  · split at h <;> cases h
  · obtain ⟨n, -, hn⟩ := Option.map_eq_some_iff.1 h
    split at hn
    · cases hn
    · next f' hf =>
      cases hn
      exact fault_of_unescape hf

/-- The rule fails with errors of the template language, or at a numeral that is too long. -/
theorem Token.failure_of_rule {source : String} {p : Nat} {cs : List Char} {f : Failure}
    (h : Token.rule source p cs = .failure f) :
    (∃ e, f = .expression e) ∨ f = .misuse .content ∧ HasOverlong cs := by
  unfold Token.rule at h
  split at h
  · cases h
  · split at h
    · cases h
    · split at h
      · next l hl =>
        subst h
        exact .inl (Token.fault_of_delimited hl)
      · split at h
        · next simple =>
          obtain ⟨rfl, numeral, long⟩ := Lexeme.of_eq_failure h
          exact .inr ⟨rfl, Token.hasOverlong_of_simple simple numeral long⟩
        · cases h
          exact .inl ⟨_, rfl⟩

/-- A text that is no template is reported as such, unless its tokens end at a numeral that is too
    long. -/
theorem parse_cases (source : String) : (∃ t, parse source = .ok t) ∨
    (∃ fault, parse source = .error (.expression fault)) ∨
      parse source = .error (.misuse .content) ∧
        Token.tokens source = .error (.misuse .content) ∧ HasOverlong source.toList :=
  Reader.read_cases reader source Token.failure_of_rule

end LinkedDocs.Template
