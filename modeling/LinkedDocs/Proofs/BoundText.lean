import LinkedDocs.Proofs.Members
import LinkedDocs.Proofs.Segments

/-! Bound text is data.

    A template in which only placeholders are bound has a form of its own: its nesting, its keys and
    its strings with holes where the placeholders stand. Decoding it with a text as the reference
    fills that text into the holes and does nothing else, whatever the text holds: a quote, a brace
    or a question mark in it is a character like any other. So what is decoded for two texts differs
    only in leaves that have a hole. -/

namespace LinkedDocs.Template

open Value (Entries)

/-! ### Forms -/

/-- What a template decodes to, with holes for the text to be bound. -/
inductive Form where
  | fixed (v : Value)
  | text (pieces : List (Option String))
  | list (items : List Form)
  | map (entries : List (String × Form))

namespace Form

section
variable (s : String)

mutual

/-- The value with a text in every hole. -/
def fill : Form → Value
  | .fixed v => v
  | .text pieces => .text (Segment.fill s pieces)
  | .list ks => .list (fillItems ks)
  | .map es => .map (fillEntries es)
termination_by structural k => k

def fillItems : List Form → List Value
  | [] => []
  | k :: ks => fill k :: fillItems ks
termination_by structural ks => ks

def fillEntries : List (String × Form) → Entries
  | [] => []
  | (name, k) :: es => (.text name, fill k) :: fillEntries es
termination_by structural es => es

end

theorem fillEntries_eq (es : List (String × Form)) :
    fillEntries s es = textEntries (es.map fun e => (e.1, e.2.fill s)) := by
  induction es with
  | nil => rfl
  | cons e es ih =>
    rw [fillEntries, ih]
    rfl

end

mutual

/-- Two values of a form: they have its nesting, its keys and its lengths, and the same leaves
    wherever the form has no hole. -/
inductive Agree : Form → Value → Value → Prop
  | fixed (v : Value) : Agree (.fixed v) v v
  | text {pieces : List (Option String)} {x y : String} (h : none ∉ pieces → x = y) :
    Agree (.text pieces) (.text x) (.text y)
  | list {ks : List Form} {xs ys : List Value} (h : AgreeItems ks xs ys) :
    Agree (.list ks) (.list xs) (.list ys)
  | map {es : List (String × Form)} {xs ys : Entries} (h : AgreeEntries es xs ys) :
    Agree (.map es) (.map xs) (.map ys)

inductive AgreeItems : List Form → List Value → List Value → Prop
  | nil : AgreeItems [] [] []
  | cons {k : Form} {ks : List Form} {x y : Value} {xs ys : List Value} (h : Agree k x y)
    (hs : AgreeItems ks xs ys) : AgreeItems (k :: ks) (x :: xs) (y :: ys)

inductive AgreeEntries : List (String × Form) → Entries → Entries → Prop
  | nil : AgreeEntries [] [] []
  | cons {name : String} {k : Form} {es : List (String × Form)} {x y : Value} {xs ys : Entries}
    (h : Agree k x y) (hs : AgreeEntries es xs ys) :
    AgreeEntries ((name, k) :: es) ((.text name, x) :: xs) ((.text name, y) :: ys)

end

/-- Pieces without a hole do not depend on what is filled in. -/
theorem fill_congr {pieces : List (Option String)} (h : none ∉ pieces) (s s' : String) :
    Segment.fill s pieces = Segment.fill s' pieces := by
  induction pieces with
  | nil => rfl
  | cons piece pieces ih =>
    rw [List.mem_cons, not_or] at h
    obtain ⟨x, rfl⟩ := Option.ne_none_iff_exists'.1 (Ne.symm h.1)
    rw [Segment.fill, Segment.fill, ih h.2]
    rfl

section
variable (s s' : String)

mutual

/-- A form filled with two texts. -/
theorem agree_fill : ∀ k : Form, Agree k (k.fill s) (k.fill s')
  | .fixed v => .fixed v
  | .text _ => .text fun h => fill_congr h s s'
  | .list ks => .list (agree_fillItems ks)
  | .map es => .map (agree_fillEntries es)
termination_by structural k => k

theorem agree_fillItems : ∀ ks : List Form, AgreeItems ks (fillItems s ks) (fillItems s' ks)
  | [] => .nil
  | k :: ks => .cons (agree_fill k) (agree_fillItems ks)
termination_by structural ks => ks

theorem agree_fillEntries :
    ∀ es : List (String × Form), AgreeEntries es (fillEntries s es) (fillEntries s' es)
  | [] => .nil
  | (_, k) :: es => .cons (agree_fill k) (agree_fillEntries es)
termination_by structural es => es

end

end

end Form

/-! ### The form of a template -/

/-- A key without placeholders and blocks, and its text. -/
inductive Key.Names : Key → String → Prop
  | name (s : String) : Names (.name s) s
  | string {s : String} (h : Segment.IsLiteral s.toList) : Names (.string s) s

mutual

/-- The form of a template: a string is cut where a placeholder or a block starts. -/
inductive HasForm : Template → Form → Prop
  | value (v : Value) : HasForm (.value v) (.fixed v)
  | placeholder (n : Nat) : HasForm (.placeholder n) (.text [none])
  | string {c : String} {ss : List Segment} {pieces : List (Option String)}
    (hcut : Segment.Cuts ss c.toList) (h : List.Forall₂ Segment.Holds ss pieces) :
    HasForm (.string c) (.text pieces)
  | array {items : List Template} {ks : List Form} (h : HaveForms items ks) :
    HasForm (.array items) (.list ks)
  | document {members : List (Key × Template)} {es : List (String × Form)}
    (h : MembersHaveForms members es) : HasForm (.document members) (.map (lastWins es))

inductive HaveForms : List Template → List Form → Prop
  | nil : HaveForms [] []
  | cons {t : Template} {k : Form} {ts : List Template} {ks : List Form} (h : HasForm t k)
    (hs : HaveForms ts ks) : HaveForms (t :: ts) (k :: ks)

inductive MembersHaveForms : List (Key × Template) → List (String × Form) → Prop
  | nil : MembersHaveForms [] []
  | cons {key : Key} {name : String} {t : Template} {k : Form} {members : List (Key × Template)}
    {es : List (String × Form)} (hkey : key.Names name) (h : HasForm t k)
    (hs : MembersHaveForms members es) : MembersHaveForms ((key, t) :: members) ((name, k) :: es)

end

/-- Only placeholders are bound, no key among them: there is no block with a mark and no object
    identifier, the blocks in strings are closed, and no key has a meaning to extended JSON. -/
inductive IsInert : Template → Prop
  | value (v : Value) : IsInert (.value v)
  | placeholder (n : Nat) : IsInert (.placeholder n)
  -- An open block and an overlong placeholder are all that a string is not cut for.
  | string {c : String} {ss : List Segment} (hsplit : Segment.split c = .ok ss)
    (h : ∀ src, .expression src ∉ ss) : IsInert (.string c)
  | array {items : List Template} (h : ∀ t ∈ items, IsInert t) : IsInert (.array items)
  | document {members : List (Key × Template)}
    (hkeys : ∀ m ∈ members, ∃ name, m.1.Names name ∧ ExtendedJson.conversion? name = none)
    (h : ∀ m ∈ members, IsInert m.2) : IsInert (.document members)

/-! ### Binding a text -/

/-- The binding of a reference that is a text. -/
def textBinding (s : String) (scope : Scope) : Binding := ⟨.text s, scope⟩

/-- Decoding a template with a text as the reference fills the text into a form. -/
def FillsIn (t : Template) (k : Form) : Prop :=
  ∀ s scope m, ((textBinding s scope).bind t).exec m = (.ok (k.fill s), m)

theorem fillsIn_items {items : List Template} (h : ∀ t ∈ items, ∃ k, HasForm t k ∧ FillsIn t k) :
    ∃ ks, HaveForms items ks ∧ ∀ s scope m,
      ((textBinding s scope).bindItems items).exec m = (.ok (Form.fillItems s ks), m) := by
  induction items with
  | nil => exact ⟨[], .nil, fun _ _ _ => rfl⟩
  | cons t items ih =>
    obtain ⟨k, hk, hfill⟩ := h t List.mem_cons_self
    obtain ⟨ks, hks, hrest⟩ := ih fun t' ht => h t' (List.mem_cons_of_mem t ht)
    refine ⟨k :: ks, .cons hk hks, fun s scope m => ?_⟩
    rw [Binding.bindItems, Run.exec_bind, hfill]
    simp only [Run.exec_bind, hrest]
    rfl

theorem bindKey_names {key : Key} {name : String} (h : key.Names name) (b : Binding)
    (m : Binding.Memory) : (b.bindKey key).exec m = (.ok name, m) := by
  cases h with
  | name => rfl
  | string h => exact b.interpolate_literal h m

theorem fillsIn_members {members : List (Key × Template)}
    (hkeys : ∀ m ∈ members, ∃ name, m.1.Names name ∧ ExtendedJson.conversion? name = none)
    (h : ∀ m ∈ members, ∃ k, HasForm m.2 k ∧ FillsIn m.2 k) :
    ∃ es, MembersHaveForms members es ∧
      (∀ name ∈ es.map (·.1), ExtendedJson.conversion? name = none) ∧
      ∀ s scope m, ((textBinding s scope).bindMembers members).exec m
        = (.ok (textEntries (es.map fun e => (e.1, e.2.fill s))), m) := by
  induction members with
  | nil => exact ⟨[], .nil, nofun, fun _ _ _ => rfl⟩
  | cons member members ih =>
    obtain ⟨key, t⟩ := member
    obtain ⟨name, hname, unmarked⟩ := hkeys _ List.mem_cons_self
    obtain ⟨k, hk, hfill⟩ := h _ List.mem_cons_self
    obtain ⟨es, hes, hunmarked, hrest⟩ := ih (fun m hm => hkeys m (List.mem_cons_of_mem _ hm))
      fun m hm => h m (List.mem_cons_of_mem _ hm)
    refine ⟨(name, k) :: es, .cons hname hk hes, ?_, fun s scope m => ?_⟩
    · rw [List.map_cons, List.forall_mem_cons]
      exact ⟨unmarked, hunmarked⟩
    · rw [Binding.bindMembers, Run.exec_bind, bindKey_names hname]
      simp only [Run.exec_bind, hfill s scope m, hrest]
      rfl

/-- An inert template has a form, which decoding fills. -/
theorem IsInert.fillsIn {t : Template} (h : t.IsInert) : ∃ k, HasForm t k ∧ FillsIn t k := by
  induction h with
  | value v => exact ⟨_, .value v, fun _ _ _ => rfl⟩
  | placeholder n =>
    refine ⟨_, .placeholder n, fun s scope m => ?_⟩
    rw [Binding.bind, Binding.parameter_of_text rfl, Run.exec_bind, Run.exec_lift]
    simp [Form.fill, Segment.fill, Value.stored]
  | string hsplit h =>
    obtain ⟨pieces, hpieces⟩ := Segment.exists_pieces h
    exact ⟨_, .string (Segment.cuts_of_split hsplit) hpieces, fun s scope =>
      Binding.bindString_holds hsplit hpieces fun _ => rfl⟩
  | @array items _ ih =>
    obtain ⟨ks, hks, hfill⟩ := fillsIn_items ih
    refine ⟨_, .array hks, fun s scope m => ?_⟩
    rw [Binding.bind, Run.exec_bind, hfill]
    rfl
  | @document members hkeys _ ih =>
    obtain ⟨es, hes, unmarked, hfill⟩ := fillsIn_members hkeys ih
    refine ⟨_, .document hes, fun s scope m => ?_⟩
    have names : ∀ name ∈ ((lastWins es).map fun e => (e.1, e.2.fill s)).map (·.1),
        ExtendedJson.conversion? name = none := by
      rw [List.map_map]
      exact fun name hname => unmarked name (mem_names_lastWins.1 hname)
    rw [Binding.bind, Run.exec_bind, hfill]
    simp only
    rw [ofList_textEntries, lastWins_map, ExtendedJson.interpret_unmarked names, Form.fill,
      Form.fillEntries_eq]
    rfl

/-- Decoding an inert template with a text as the reference gives the form of the template with the
    text in every hole, whatever the text holds, and never builds a scope. So the values for two
    texts agree except in leaves that have a hole. -/
theorem bound_text_is_data {source : String} {t : Template} (h : parse source = .ok t)
    (inert : t.IsInert) :
    ∃ k, HasForm t k ∧
      (∀ s scope m, ((textBinding s scope).decodeValue source).exec m = (.ok (k.fill s), m)) ∧
      ∀ s s', Form.Agree k (k.fill s) (k.fill s') := by
  obtain ⟨k, hk, hfill⟩ := inert.fillsIn
  refine ⟨k, hk, fun s scope m => ?_, fun s s' => Form.agree_fill s s' k⟩
  rw [Binding.decodeValue, h, Run.exec_bind, Run.exec_lift]
  exact hfill s scope m

/-- Placeholders alone, quoted and not, and inside a longer string; a block without a mark, which is
    text; and a key that is given twice. -/
def boundSampleText : String := "\x7b name: ['?0', ?0], 'q': \"x-?0#\x7b?1\x7d\", name: ?1 \x7d"

def boundSample : Template :=
  .document [(.name "name", .array [.string "?0", .placeholder 0]),
    (.string "q", .string "x-?0#\x7b?1\x7d"), (.name "name", .placeholder 1)]

theorem parse_boundSample : parse boundSampleText = .ok boundSample := by rfl

theorem boundSample_isInert : boundSample.IsInert := by
  have lone : Segment.split "?0" = .ok [.placeholder 0] := by rfl
  have spliced : Segment.split "x-?0#\x7b?1\x7d" = .ok [.text "x-", .placeholder 0, .bare "?1"] := by
    rfl
  refine .document ?_ ?_ <;> simp only [List.forall_mem_cons]
  · exact ⟨⟨_, .name _, rfl⟩, ⟨_, .string (by decide), rfl⟩, ⟨_, .name _, rfl⟩, nofun⟩
  · refine ⟨.array ?_, .string spliced (by simp), .placeholder 1, nofun⟩
    simp only [List.forall_mem_cons]
    exact ⟨.string lone (by simp), .placeholder 0, nofun⟩

/-- A text that would end a string, open a block and name an operator, were it a template. -/
def hostile : String := "'\x7d, ?1 #\x7bx\x7d \\ $or"

theorem decode_hostile : ∃ k, HasForm boundSample k ∧
    ((textBinding hostile ⟨.null, []⟩).decodeValue boundSampleText).exec .fresh
      = (.ok (k.fill hostile), .fresh) ∧
    Form.Agree k (k.fill hostile) (k.fill "") := by
  obtain ⟨k, hk, hfill, hagree⟩ := bound_text_is_data parse_boundSample boundSample_isInert
  exact ⟨k, hk, hfill _ _ _, hagree _ _⟩

end LinkedDocs.Template
