import LinkedDocs.Proofs.JsonNumbers
import LinkedDocs.Proofs.TemplateGrammar

/-! JSON texts as templates.

    Every JSON text is a template: each of its words is one template token wherever it stands, since
    only a mark or a blank follows a number or a reserved word, and no value begins with the hash
    that would make a colon open a block. The tokens are those that the value is written as, so the
    reader gives the value back, unless it comes to an integer that cannot be read as JSON, either.
    Where no string holds a placeholder or a block, binding leaves every
    string as it is; then decoding gives what JSON with the hook gives, whatever the binding. -/

namespace LinkedDocs.Json

open Scan
open Template (Token Yields YieldsItems YieldsMember YieldsMembers)

variable {source : String} {cs w rest : List Char} {s : String}

/-! ### Strings -/

/-- A letter of an escape does not end the line, and the rule of templates resolves it alike. -/
theorem shortEscapes_spec {letter c : Char} (h : (letter, c) ∈ shortEscapes) :
    letter ≠ '\n' ∧ letter ≠ 'u' ∧ ((Template.escapes.lookup letter).getD letter) = c := by
  have all : shortEscapes.all (fun e => e.1 != '\n' && e.1 != 'u' &&
      (Template.escapes.lookup e.1).getD e.1 == e.2) = true := by decide
  simpa [and_assoc] using List.all_eq_true.1 all _ h

/-- A hexadecimal digit is no quote and no backslash. -/
theorem ne_of_isHex {x : Char} (h : (Text.hexValue? x).isSome) : x ≠ '"' ∧ x ≠ '\\' := by
  constructor <;> rintro rfl <;> exact absurd h (by decide)

theorem SpelledAll.stringTail (h : SpelledAll cs w) (rest : List Char) :
    stringTail '"' (w ++ '"' :: rest) = some (w.length + 1) := by
  induction h with
  | nil => exact stringTail_quote
  | @cons c cs w ws hc _ ih =>
    rw [List.append_assoc]
    cases hc with
    | plain _ quote backslash =>
      rw [List.singleton_append, stringTail_other quote backslash, ih]
      rfl
    | short h =>
      rw [List.cons_append, List.singleton_append,
        stringTail_escape (by decide) (shortEscapes_spec h).1, ih]
      rfl
    | code hex _ =>
      simp only [List.forall_mem_cons] at hex
      obtain ⟨h₁, h₂, h₃, h₄, -⟩ := hex
      simp only [List.cons_append, List.nil_append]
      rw [stringTail_escape (by decide) (by decide),
        stringTail_other (ne_of_isHex h₁).1 (ne_of_isHex h₁).2,
        stringTail_other (ne_of_isHex h₂).1 (ne_of_isHex h₂).2,
        stringTail_other (ne_of_isHex h₃).1 (ne_of_isHex h₃).2,
        stringTail_other (ne_of_isHex h₄).1 (ne_of_isHex h₄).2, ih]
      rfl

/-- An escape of one letter is resolved by the table. -/
theorem codePoints?_letter {letter : Char} (h : letter ≠ 'u') (cs : List Char) :
    Template.codePoints? ('\\' :: letter :: cs) =
      (Template.codePoints? cs).map (((Template.escapes.lookup letter).getD letter).toNat :: ·) := by
  rw [Template.codePoints?.eq_def]
  split
  · next heq => cases heq
  · next heq => cases heq
  · next heq =>
    cases heq
    exact absurd rfl h
  · next heq =>
    cases heq
    rw [if_pos rfl, if_neg h]

theorem SpelledAll.codePoints? (h : SpelledAll cs w) :
    Template.codePoints? w = some (cs.map (·.toNat)) := by
  induction h with
  | nil => rfl
  | @cons c cs w ws hc _ ih =>
    cases hc with
    | plain _ _ backslash =>
      rw [List.singleton_append, Token.codePoints?_plain backslash, ih]
      rfl
    | short h =>
      obtain ⟨-, notU, value⟩ := shortEscapes_spec h
      rw [List.cons_append, List.singleton_append, codePoints?_letter notU, ih, value]
      rfl
    | @code c x₁ x₂ x₃ x₄ hex value =>
      have digits : [x₁, x₂, x₃, x₄].all (fun x => (Text.hexValue? x).isSome) = true :=
        List.all_eq_true.2 hex
      simp only [List.cons_append, List.nil_append]
      rw [Template.codePoints?.eq_3, if_pos digits, ih, value]
      rfl

/-- A JSON string is taken for the text it stands for. -/
theorem WritesText.rule (h : WritesText s w) (rest : List Char) (position : Nat) :
    Token.rule source position (w ++ rest) = .token (.string s) w.length := by
  obtain ⟨h⟩ := h
  rename_i w
  have content : Template.unescape? w = some s.toList := by
    rw [Template.unescape?, h.codePoints?, Option.map_some, Token.joinHalves_toNat]
  have text : '"' :: (w ++ ['"']) ++ rest = '"' :: (w ++ '"' :: rest) := by simp
  have length : ('"' :: (w ++ ['"'])).length = w.length + 2 := by simp
  rw [text, length]
  exact Token.rule_string (.inr rfl) h.stringTail content rest position

/-! ### The template that a value is -/

mutual

/-- The template that a value is read as. -/
def template : Json → Template
  | .null => .value .null
  | .bool b => .value (.bool b)
  | .int n => .value (.int n)
  | .real x => .value (.float x)
  | .text s => .string s
  | .array items => .array (templates items)
  | .object members => .document (templateMembers members)
termination_by structural j => j

def templates : List Json → List Template
  | [] => []
  | j :: items => template j :: templates items
termination_by structural items => items

def templateMembers : List (String × Json) → List (Template.Key × Template)
  | [] => []
  | (name, j) :: members => (.string name, template j) :: templateMembers members
termination_by structural members => members

end

/-- The template that a member is read as. -/
def templateMember (m : String × Json) : Template.Key × Template := (.string m.1, m.2.template)

theorem templates_eq_map (items : List Json) : templates items = items.map template := by
  induction items with
  | nil => rfl
  | cons j items ih => rw [templates, ih, List.map_cons]

theorem templateMembers_eq_map (members : List (String × Json)) :
    templateMembers members = members.map templateMember := by
  induction members with
  | nil => rfl
  | cons m members ih =>
    rw [templateMembers, ih, List.map_cons]
    rfl

theorem itemsReadable_eq_all (items : List Json) : itemsReadable items = items.all isReadable := by
  induction items with
  | nil => rfl
  | cons j items ih => rw [itemsReadable, ih, List.all_cons]

theorem membersReadable_eq_all (members : List (String × Json)) :
    membersReadable members = members.all fun m => m.2.isReadable := by
  induction members with
  | nil => rfl
  | cons m members ih => rw [membersReadable, ih, List.all_cons]

/-! ### The tokens of a text -/

/-- Whether the token stands for an integer that cannot be read. -/
def isOverlong : Token → Bool
  | .integer n => !Text.isWritable n
  | _ => false

/-- Words in which given template tokens are found wherever the last of them ends. A scan stops at
    those that cannot be read. -/
abbrev Scanned (source : String) : List (List Char) → List Token → Prop :=
  ScansTo (Token.rule source) (.stopping isOverlong (.misuse .content)) (EndsAt Token.marks)

variable {ws us : List (List Char)} {ts vs : List Token} {a : Token} {c : Char} {j : Json}

theorem ends_mark (hc : c ∈ Token.marks) (h : Laid ([c] :: ws) cs) : EndsAt Token.marks cs := by
  refine h.endsAt ?_
  rintro w ⟨⟩
  exact ⟨c, hc, rfl⟩

/-- A token that is no numeral is taken. -/
theorem found_eq_token (ha : a.isNumeral = false) (n : Nat) :
    Lexeme.stopping isOverlong (.misuse .content) a n = .token a n := by
  refine Lexeme.stopping_eq_token ?_
  cases a <;> first | rfl | cases ha

/-- A mark other than a colon is taken whatever comes next. -/
theorem Scanned.mark (ha : Token.ofMark? c = some a) (hc : c ≠ ':') (h : Scanned source ws ts) :
    Scanned source ([c] :: ws) (a :: ts) := by
  refine .closed (List.cons_ne_nil _ _) (fun rest position => ?_) h
  rw [found_eq_token (Token.isNumeral_ofMark? ha)]
  exact Token.rule_mark ha (.inl hc) position

/-- Words that go on with a mark other than a colon. -/
theorem Scanned.append_mark (h : Scanned source ws ts) (ha : Token.ofMark? c = some a)
    (hc : c ∈ Token.marks ∧ c ≠ ':') (h' : Scanned source us vs) :
    Scanned source (ws ++ [c] :: us) (ts ++ a :: vs) :=
  ScansTo.append h (Scanned.mark ha hc.2 h') fun _ _ => ends_mark hc.1

/-- No value begins with a hash. -/
theorem Writes.head (h : Writes j ws) : ∃ c w us, ws = (c :: w) :: us ∧ c ≠ '#' := by
  have number {sign ds : List Char} (h : IsInteger sign ds) :
      ∃ c w, sign ++ ds = c :: w ∧ c ≠ '#' := by
    obtain ⟨c, w, hw, hc⟩ := h.exists_cons
    exact ⟨c, w, hw, (Token.of_isDigit hc).2.2.2.2.2⟩
  cases h with
  | null => exact ⟨_, _, _, rfl, by decide⟩
  | yes => exact ⟨_, _, _, rfl, by decide⟩
  | no => exact ⟨_, _, _, rfl, by decide⟩
  | int h =>
    obtain ⟨c, w, hw, hc⟩ := number h
    exact ⟨c, w, [], by rw [hw], hc⟩
  | real h =>
    obtain ⟨h, -, -, -⟩ := h
    obtain ⟨c, w, hw, hc⟩ := number h
    exact ⟨c, _, [], by rw [hw, List.cons_append], hc⟩
  | text h =>
    cases h
    exact ⟨_, _, _, rfl, by decide⟩
  | emptyArray => exact ⟨_, _, _, rfl, by decide⟩
  | array => exact ⟨_, _, _, rfl, by decide⟩
  | emptyObject => exact ⟨_, _, _, rfl, by decide⟩
  | object => exact ⟨_, _, _, rfl, by decide⟩

/-- A colon in front of a value is one by itself. -/
theorem Writes.colon (hj : Writes j ws) (h : Scanned source ws ts) :
    Scanned source ([':'] :: ws) (.colon :: ts) := by
  refine .cons (List.cons_ne_nil _ _) (fun vs cs hcs => ?_) h
  obtain ⟨c, w, us, rfl, hc⟩ := hj.head
  refine Token.rule_mark rfl (.inr fun d hd => ?_)
  rcases hcs.endsAt_word d hd with gap | word
  · rintro rfl
    exact absurd gap (by decide)
  · rw [List.mem_singleton.1 word]
    exact hc

theorem scanned_keyword (k : Keyword) : Scanned source [k.word.toList] [.keyword k] :=
  .one (by cases k <;> decide) fun _ position ends => Token.rule_keyword k ends position

/-- An integer is found in its numeral, read or not. -/
theorem scanned_integer {sign ds : List Char} (h : IsInteger sign ds) :
    Scanned source [sign ++ ds] [.integer (numeralValue sign ds)] := by
  refine .one (List.append_ne_nil_of_right_ne_nil _ h.ne_nil) fun rest position ends => ?_
  rw [Token.rule_numeral h.toIsNumeral ends, Lexeme.of, Lexeme.stopping, isOverlong, h.isWritable,
    Bool.true_and]

theorem IsReal.ne_nil (h : IsReal w) : w ≠ [] := by
  obtain ⟨h, -, -, -⟩ := h
  exact List.append_ne_nil_of_left_ne_nil (List.append_ne_nil_of_right_ne_nil _ h.ne_nil) _

theorem WritesText.scanned (h : WritesText s w) : Scanned source [w] [.string s] := by
  refine .closed ?_ h.rule .nil
  cases h
  exact List.cons_ne_nil _ _

mutual

/-- The words of a value are scanned to what its template is written as, and the scan stops if one
    of its integers cannot be read. -/
theorem Writes.scanned : ∀ {j : Json} {ws : List (List Char)}, Writes j ws →
    ∃ ts, Scanned source ws ts ∧ Yields j.template ts ∧ ts.any isOverlong = !j.isReadable
  | _, _, .null => ⟨_, scanned_keyword .nothing, .leaf (.keyword .nothing), rfl⟩
  | _, _, .yes => ⟨_, scanned_keyword .yes, .leaf (.keyword .yes), rfl⟩
  | _, _, .no => ⟨_, scanned_keyword .no, .leaf (.keyword .no), rfl⟩
  | _, _, .int h => ⟨_, scanned_integer h, .leaf (.integer _), Bool.or_false _⟩
  | _, _, .real h hx =>
    ⟨_, .one h.ne_nil fun _ position ends => rule_real h hx ends position, .leaf (.float _), rfl⟩
  | _, _, .text h => ⟨_, h.scanned, .leaf (.string _), rfl⟩
  | _, _, .emptyArray =>
    ⟨_, .mark rfl (by decide) (.mark rfl (by decide) .nil), .emptyArray, rfl⟩
  | _, _, .array h => by
    obtain ⟨ts, hscan, hyields, hstop⟩ := WritesItems.scanned h
    refine ⟨_, .mark rfl (by decide) (hscan.append_mark rfl (by decide) .nil), ?_, ?_⟩
    · rw [template, templates_eq_map]
      have array := Yields.array hyields .nothing
      rwa [List.append_nil] at array
    · rw [isReadable, itemsReadable_eq_all, ← hstop]
      simp [isOverlong]
  | _, _, .emptyObject =>
    ⟨_, .mark rfl (by decide) (.mark rfl (by decide) .nil), .emptyDocument, rfl⟩
  | _, _, .object h => by
    obtain ⟨ts, hscan, hyields, hstop⟩ := WritesMembers.scanned h
    refine ⟨_, .mark rfl (by decide) (hscan.append_mark rfl (by decide) .nil), ?_, ?_⟩
    · rw [template, templateMembers_eq_map]
      have document := Yields.document hyields .nothing
      rwa [List.append_nil] at document
    · rw [isReadable, membersReadable_eq_all, ← hstop]
      simp [isOverlong]

theorem WritesItems.scanned : ∀ {items : List Json} {ws : List (List Char)}, WritesItems items ws →
    ∃ ts, Scanned source ws ts ∧ YieldsItems (items.map template) ts ∧
      ts.any isOverlong = !items.all isReadable
  | _, _, .one h => by
    obtain ⟨ts, hscan, hyield, hstop⟩ := Writes.scanned h
    exact ⟨ts, hscan, .one hyield, by simpa using hstop⟩
  | _, _, .more hs h => by
    obtain ⟨ts, hscan, hyields, hstops⟩ := WritesItems.scanned hs
    obtain ⟨us, hscan', hyield, hstop⟩ := Writes.scanned h
    refine ⟨_, hscan.append_mark (c := ',') rfl (by decide) hscan', ?_, ?_⟩
    · rw [List.map_append]
      exact .more hyields hyield
    · rw [List.any_append, List.any_cons, hstops, hstop]
      simp [isOverlong]

theorem WritesMember.scanned : ∀ {m : String × Json} {ws : List (List Char)}, WritesMember m ws →
    ∃ ts, Scanned source ws ts ∧ YieldsMember (templateMember m) ts ∧
      ts.any isOverlong = !m.2.isReadable
  | _, _, .pair hname h => by
    obtain ⟨ts, hscan, hyield, hstop⟩ := Writes.scanned h
    have words := ScansTo.append (hname.scanned) (h.colon hscan) fun _ _ => ends_mark (by decide)
    exact ⟨_, words, .pair (.string _) hyield, hstop⟩

theorem WritesMembers.scanned : ∀ {members : List (String × Json)} {ws : List (List Char)},
    WritesMembers members ws →
    ∃ ts, Scanned source ws ts ∧ YieldsMembers (members.map templateMember) ts ∧
      ts.any isOverlong = !members.all fun m => m.2.isReadable
  | _, _, .one h => by
    obtain ⟨ts, hscan, hyield, hstop⟩ := WritesMember.scanned h
    exact ⟨ts, hscan, .one hyield, by simpa using hstop⟩
  | _, _, .more hs h => by
    obtain ⟨ts, hscan, hyields, hstops⟩ := WritesMembers.scanned hs
    obtain ⟨us, hscan', hyield, hstop⟩ := WritesMember.scanned h
    refine ⟨_, hscan.append_mark (c := ',') rfl (by decide) hscan', ?_, ?_⟩
    · rw [List.map_append]
      exact .more hyields hyield
    · rw [List.any_append, List.any_cons, hstops, hstop]
      simp [isOverlong]

end

/-! ### Decoding a text -/

/-- Tokens in front of others that the automaton takes are taken. -/
theorem exists_state {step : Template.ReaderState → Token → Option Template.ReaderState}
    {s s' : Template.ReaderState} (h : ts.foldlM step s = some s') (front : vs <+: ts) :
    ∃ mid, vs.foldlM step s = some mid := by
  obtain ⟨us, rfl⟩ := front
  rw [List.foldlM_append, Option.bind_eq_bind, Option.bind_eq_some_iff] at h
  exact h.imp fun mid hmid => hmid.1

/-- A JSON text is read as the template that its value is, if the value can be read. -/
theorem IsText.parse (h : j.IsText source) :
    Template.parse source = j.read.map template := by
  obtain ⟨ws, hws, laid⟩ := h
  obtain ⟨ts, hscan, hyield, hstop⟩ : ∃ ts, Scanned source ws ts ∧ Yields j.template ts ∧
      ts.any isOverlong = !j.isReadable := hws.scanned
  have reads := hscan [] [] (fun _ hcs => hcs.endsAt nofun) .nil
  rw [List.append_nil, List.append_nil] at reads
  rw [read]
  cases readable : j.isReadable with
  | true =>
    rw [readable] at hstop
    have go := List.any_eq_false.1 hstop
    have taken := reads.taken fun a ha => Bool.eq_false_iff.2 (go a ha)
    obtain ⟨ending, tokens⟩ := laid.scanFrom Token.rule_gap taken 0
    refine Template.parse_eq_ok.2 ⟨_, result_eq_ok.2 ⟨ending, rfl⟩, ?_⟩
    rw [Token.scan, tokens]
    exact hyield
  | false =>
    rw [readable] at hstop
    obtain ⟨ending, front⟩ := laid.scanFrom_stopped Token.rule_gap reads
      (List.any_eq_true.1 hstop) 0
    obtain ⟨s, hs, -⟩ := Template.ReaderState.run_finish_iff.2 hyield
    obtain ⟨mid, hmid⟩ := exists_state hs front
    exact Reader.read_of_failure Template.reader ending hmid

section
variable {hook : Value.Entries → Except Failure Value} {b : Binding}

/-- A template that decodes to what a value does, without looking at the binding. -/
def DecodesTo (b : Binding) (t : Template) (x : Except Failure Value) : Prop :=
  ∀ m, (b.bind t).exec m = (x, m)

theorem bindItems_templates {items : List Json}
    (h : ∀ j ∈ items, DecodesTo b j.template (j.decoded hook)) (m : Binding.Memory) :
    (b.bindItems (templates items)).exec m = (decodedItems hook items, m) := by
  induction items with
  | nil => rfl
  | cons j items ih =>
    have rest := ih fun j' hj => h j' (List.mem_cons_of_mem j hj)
    rw [templates, Binding.bindItems, decodedItems, Run.exec_bind, h j List.mem_cons_self]
    cases j.decoded hook with
    | error f => rfl
    | ok v =>
      simp only [Run.exec_bind, rest]
      cases decodedItems hook items <;> rfl

theorem bindMembers_templates {members : List (String × Json)}
    (names : ∀ m ∈ members, Segment.IsLiteral m.1.toList)
    (h : ∀ m ∈ members, DecodesTo b m.2.template (m.2.decoded hook)) (m : Binding.Memory) :
    (b.bindMembers (templateMembers members)).exec m
      = ((decodedMembers hook members).map textEntries, m) := by
  induction members with
  | nil => rfl
  | cons member members ih =>
    obtain ⟨name, j⟩ := member
    have rest := ih (fun m hm => names m (List.mem_cons_of_mem _ hm))
      fun m hm => h m (List.mem_cons_of_mem _ hm)
    have key : (b.bindKey (.string name)).exec m = (.ok name, m) :=
      b.interpolate_literal (names _ List.mem_cons_self) m
    rw [templateMembers, Binding.bindMembers, decodedMembers, Run.exec_bind, key]
    simp only [Run.exec_bind, h _ List.mem_cons_self m]
    cases j.decoded hook with
    | error f => rfl
    | ok v =>
      simp only [rest]
      cases decodedMembers hook members <;> rfl

theorem IsPlain.decodesTo (b : Binding) (h : j.IsPlain) :
    DecodesTo b j.template (j.decoded ExtendedJson.interpret) := by
  induction h with
  | null => exact fun _ => rfl
  | bool => exact fun _ => rfl
  | int => exact fun _ => rfl
  | real => exact fun _ => rfl
  | text h => exact b.bindString_literal h
  | @array items _ ih =>
    intro m
    rw [template, Binding.bind, decoded, Run.exec_bind, bindItems_templates ih]
    cases decodedItems ExtendedJson.interpret items <;> rfl
  | @object members names _ ih =>
    intro m
    rw [template, Binding.bind, decoded, Run.exec_bind, bindMembers_templates names ih]
    cases decodedMembers ExtendedJson.interpret members with
    | error f => rfl
    | ok es => exact congrArg (·, m) (congrArg ExtendedJson.interpret (ofList_textEntries es))

end

/-- Decoding a JSON text as a template gives what JSON gives with the hook applied to every document
    from the inside out, failures included, if no string in it holds a placeholder or a block. It
    neither depends on the binding nor builds a scope. Every number text has a value. -/
theorem decode_json_as_template (j : Json) (source : String) (h : j.IsText source)
    (plain : j.IsPlain) (b : Binding) (m : Binding.Memory) :
    (b.decodeValue source).exec m = (j.read >>= decoded ExtendedJson.interpret, m) ∧
    ∀ w, IsReal w → ∃ x, Number.readFloat? (String.ofList w) = some x := by
  refine ⟨?_, fun _ => readFloat?_isSome⟩
  rw [Binding.decodeValue, h.parse, Run.exec_bind, Run.exec_lift, read]
  cases j.isReadable with
  | true => exact plain.decodesTo b m
  | false => rfl

/-- A name that is given twice, escapes of several forms, a number without a point before its
    exponent, and a document that the hook puts an integer in place of. -/
def sampleText : String :=
  "\x7b\"a\" :[-25e-1,null] ,\"b\":\"\\u0041\\n?x\",\n\"a\":\x7b\"$numberLong\":\"7\"\x7d\x7d"

def sample (x : Float) : Json :=
  .object [("a", .array [.real x, .null]), ("b", .text "A\n?x"),
    ("a", .object [("$numberLong", .text "7")])]

theorem sample_isPlain (x : Float) : (sample x).IsPlain := by
  refine .object ?_ ?_ <;> simp only [List.forall_mem_cons]
  · exact ⟨by decide, by decide, by decide, nofun⟩
  · refine ⟨.array ?_, .text (by decide), .object ?_ ?_, nofun⟩ <;> simp only [List.forall_mem_cons]
    · exact ⟨.real x, .null, nofun⟩
    · exact ⟨by decide, nofun⟩
    · exact ⟨.text (by decide), nofun⟩

theorem isReal_sample : IsReal "-25e-1".toList := by
  have integer : IsInteger ['-'] ['2', '5'] :=
    ⟨⟨.inr rfl, List.cons_ne_nil _ _, List.all_eq_true.1 (by decide)⟩, by decide⟩
  have exponent : IsExponent ['e', '-', '1'] :=
    .digits (.inl rfl) (.inr (.inl rfl)) ⟨List.cons_ne_nil _ _, List.all_eq_true.1 (by decide)⟩
  exact .mk integer .nothing exponent (List.cons_ne_nil _ _)

/-- A text without quotes, backslashes and control characters may be written as it is. -/
theorem spelledAll_self (h : cs.all fun c => 0x20 ≤ c.toNat && c != '"' && c != '\\') :
    SpelledAll cs cs := by
  induction cs with
  | nil => exact .nil
  | cons c cs ih =>
    simp only [List.all_cons, Bool.and_eq_true, decide_eq_true_eq, bne_iff_ne] at h
    exact .cons (.plain h.1.1.1 h.1.1.2 h.1.2) (ih h.2)

/-- The words of the sample. -/
def sampleWords : List (List Char) :=
  [['{'], "\"a\"".toList, [':'], ['['], "-25e-1".toList, [','], "null".toList, [']'], [','],
    "\"b\"".toList, [':'], "\"\\u0041\\n?x\"".toList, [','], "\"a\"".toList, [':'], ['{'],
    "\"$numberLong\"".toList, [':'], "\"7\"".toList, ['}'], ['}']]

theorem sample_writes {x : Float} (hx : Number.readFloat? "-25e-1" = some x) :
    Writes (sample x) sampleWords := by
  have a : WritesText "a" "\"a\"".toList := .mk (spelledAll_self (by decide))
  have b : WritesText "b" "\"b\"".toList := .mk (spelledAll_self (by decide))
  have marked : WritesText "$numberLong" "\"$numberLong\"".toList :=
    .mk (spelledAll_self (by decide))
  have seven : WritesText "7" "\"7\"".toList := .mk (spelledAll_self (by decide))
  have escaped : WritesText "A\n?x" "\"\\u0041\\n?x\"".toList := by
    have letter : Spelled 'A' ['\\', 'u', '0', '0', '4', '1'] :=
      .code (List.all_eq_true.1 (by decide)) (by decide)
    have line : Spelled '\n' ['\\', 'n'] := .short (by decide)
    have rest : SpelledAll ['?', 'x'] ['?', 'x'] := spelledAll_self (by decide)
    exact @WritesText.mk "A\n?x" _ (.cons letter (.cons line rest))
  have array := Writes.array (.more (.one (.real isReal_sample hx)) .null)
  have inner := Writes.object (.one (.pair marked (.text seven)))
  exact Writes.object (.more (.more (.one (.pair a array)) (.pair b (.text escaped)))
    (.pair a inner))

theorem sample_laid : Laid sampleWords sampleText.toList := by
  have text : sampleText.toList = ['{'] ++ ("\"a\"".toList ++ ' ' :: ([':'] ++ (['['] ++
      ("-25e-1".toList ++ ([','] ++ ("null".toList ++ ([']'] ++ ' ' :: ([','] ++ ("\"b\"".toList ++
      ([':'] ++ ("\"\\u0041\\n?x\"".toList ++ ([','] ++ '\n' :: ("\"a\"".toList ++ ([':'] ++
      (['{'] ++ ("\"$numberLong\"".toList ++ ([':'] ++ ("\"7\"".toList ++ (['}'] ++
      (['}'] ++ [])))))))))))))))))))) := by decide +kernel
  rw [text, sampleWords]
  iterate 2 refine .word _ ?_
  refine .blank (by decide) ?_
  iterate 6 refine .word _ ?_
  refine .blank (by decide) ?_
  iterate 5 refine .word _ ?_
  refine .blank (by decide) ?_
  iterate 8 refine .word _ ?_
  exact .nil

theorem decode_sample : ((Binding.mk .null ⟨.null, []⟩).decodeValue sampleText).exec .fresh
    = (.ok (.map [(.text "a", .long 7), (.text "b", .text "A\n?x")]), .fresh) := by
  obtain ⟨x, hx⟩ := readFloat?_isSome isReal_sample
  have text : (sample x).IsText sampleText := ⟨_, sample_writes hx, sample_laid⟩
  exact (decode_json_as_template (sample x) sampleText text (sample_isPlain x) _ .fresh).1

end LinkedDocs.Json
