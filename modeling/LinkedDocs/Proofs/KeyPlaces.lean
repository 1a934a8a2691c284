import LinkedDocs.Proofs.Spellings

/-! Places of keys.

    A key stands in a document somewhere in a template, between other members. Its token may be
    exchanged for that of any other key. A plain word can be nothing but a key, so a token that may
    be exchanged for one stands in such a place, and a colon comes behind it. -/

namespace LinkedDocs.Template

open Scan

/-- A place for a key: a document that stands somewhere in a template, the members in front of the
    one with the key, its value, and the members behind it. -/
structure KeyPlace where
  slot : Slot
  before : List (Key × Template)
  value : Template
  after : List (Key × Template)

namespace KeyPlace

/-- The template with a key in its place. -/
def fill (place : KeyPlace) (k : Key) : Template :=
  place.slot.fill (.document (place.before ++ (k, place.value) :: place.after))

/-- The tokens around a place. -/
def Around (place : KeyPlace) (ts us : List Token) : Prop :=
  ∀ k a, WritesKey k a → Yields (place.fill k) (ts ++ a :: us)

/-- The place in one of the items of an array. -/
def inArray (before : List Template) (place : KeyPlace) (after : List Template) : KeyPlace :=
  { place with slot := .item before place.slot after }

/-- The place in the value of one of the members of a document. -/
def inDocument (before : List (Key × Template)) (key : Key) (place : KeyPlace)
    (after : List (Key × Template)) : KeyPlace :=
  { place with slot := .member before key place.slot after }

end KeyPlace

/-- A member with a place for a key: its own, or one in its value. -/
inductive HasPlace : (Key → Key × Template) → Prop
  | key (v : Template) : HasPlace fun k => (k, v)
  | value (key : Key) (place : KeyPlace) : HasPlace fun k => (key, place.fill k)

theorem HasPlace.exists_place {f : Key → Key × Template} (h : HasPlace f)
    (before after : List (Key × Template)) :
    ∃ place : KeyPlace, ∀ k, place.fill k = .document (before ++ f k :: after) := by
  cases h with
  | key v => exact ⟨⟨.whole, before, v, after⟩, fun k => rfl⟩
  | value key place => exact ⟨place.inDocument before key after, fun k => rfl⟩

/-! ### Where a plain word may stand -/

variable {ts us ts' : List Token} {name : String}

/-- Of two lists in a row, one has the item. -/
theorem split_append {α : Type} {x : α} {xs ys zs ws : List α} (h : xs ++ ys = zs ++ x :: ws) :
    (∃ vs, xs = zs ++ x :: vs ∧ ws = vs ++ ys) ∨ ∃ vs, zs = xs ++ vs ∧ ys = vs ++ x :: ws := by
  induction xs generalizing zs with
  | nil => exact .inr ⟨zs, rfl, h⟩
  | cons y xs ih =>
    cases zs with
    | nil =>
      obtain ⟨rfl, rfl⟩ := List.cons.inj h
      exact .inl ⟨xs, rfl, rfl⟩
    | cons z zs =>
      obtain ⟨rfl, tail⟩ := List.cons.inj h
      rcases ih tail with ⟨vs, rfl, rfl⟩ | ⟨vs, rfl, rfl⟩
      · exact .inl ⟨vs, rfl, rfl⟩
      · exact .inr ⟨vs, rfl, rfl⟩

theorem mem_of_eq {α : Type} {x : α} {xs ys zs : List α} (h : xs = ys ++ x :: zs) : x ∈ xs := by
  rw [h]
  exact List.mem_append_right _ List.mem_cons_self

/-- The brackets of a container and a comma in front of the last one are no words. -/
theorem word_inside {opening closing : Token} {more : List Token}
    (h : opening :: ts' ++ more ++ [closing] = ts ++ .word name :: us) (hmore : Trailing more)
    (ho : opening ≠ .word name) (hc : closing ≠ .word name) :
    ∃ vs ws, ts = opening :: vs ∧ ts' = vs ++ .word name :: ws ∧
      us = ws ++ (more ++ [closing]) := by
  rw [List.append_assoc, List.cons_append] at h
  cases ts with
  | nil => exact absurd (List.cons.inj h).1 ho
  | cons t ts =>
    obtain ⟨rfl, tail⟩ := List.cons.inj h
    rcases split_append tail with ⟨vs, rfl, rfl⟩ | ⟨vs, rfl, behind⟩
    · exact ⟨ts, vs, rfl, rfl, rfl⟩
    · have mem := mem_of_eq behind
      cases hmore <;> simp [hc.symm] at mem

-- The tokens are split by an equation of its own, so that the recursion is on the derivation. A
-- member is found with what stays of it when its key changes, and is put among its siblings above.
mutual

/-- In a template a plain word stands in the place of a key. -/
theorem Yields.exists_place : ∀ {t : Template} {ts' : List Token}, Yields t ts' →
    ∀ {ts us : List Token}, ts' = ts ++ .word name :: us → ∃ place : KeyPlace, place.Around ts us
  | _, _, .leaf h, _, _, heq => by
    have mem := List.mem_singleton.1 (mem_of_eq heq)
    rw [← mem] at h
    cases h
  | _, _, .objectId _, _, _, heq => by
    have mem := mem_of_eq heq
    simp at mem
  | _, _, .emptyArray, _, _, heq => by
    have mem := mem_of_eq heq
    simp at mem
  | _, _, .emptyDocument, _, _, heq => by
    have mem := mem_of_eq heq
    simp at mem
  | _, _, .array h hmore, ts, us, heq => by
    obtain ⟨vs, ws, rfl, inside, rfl⟩ := word_inside heq hmore nofun nofun
    obtain ⟨before, place, after, items⟩ := h.exists_place inside
    refine ⟨place.inArray before after, fun k a ha => ?_⟩
    have array : Yields ((place.inArray before after).fill k) _ := .array (items k a ha) hmore
    simpa using array
  | _, _, .document h hmore, ts, us, heq => by
    obtain ⟨vs, ws, rfl, inside, rfl⟩ := word_inside heq hmore nofun nofun
    obtain ⟨before, f, after, hf, members⟩ := h.exists_place inside
    obtain ⟨place, hplace⟩ := hf.exists_place before after
    refine ⟨place, fun k a ha => ?_⟩
    have document := Yields.document (members k a ha) hmore
    rw [hplace]
    simpa using document

theorem YieldsItems.exists_place : ∀ {items : List Template} {ts' : List Token},
    YieldsItems items ts' → ∀ {ts us : List Token}, ts' = ts ++ .word name :: us →
    ∃ before, ∃ place : KeyPlace, ∃ after, ∀ k a, WritesKey k a →
      YieldsItems (before ++ place.fill k :: after) (ts ++ a :: us)
  | _, _, .one h, ts, us, heq => by
    obtain ⟨place, around⟩ := h.exists_place heq
    exact ⟨[], place, [], fun k a ha => .one (around k a ha)⟩
  | _, _, @YieldsItems.more front t _ _ hs h, ts, us, heq => by
    rcases split_append heq with ⟨vs, inside, rfl⟩ | ⟨vs, rfl, behind⟩
    · obtain ⟨before, place, after, items⟩ := hs.exists_place inside
      refine ⟨before, place, after ++ [t], fun k a ha => ?_⟩
      have more := (items k a ha).more h
      simpa using more
    · cases vs with
      | nil => cases behind
      | cons v vs =>
        obtain ⟨rfl, tail⟩ := List.cons.inj behind
        obtain ⟨place, around⟩ := h.exists_place tail
        refine ⟨front, place, [], fun k a ha => ?_⟩
        have more := hs.more (around k a ha)
        simpa using more

theorem YieldsMember.exists_place : ∀ {m : Key × Template} {ts' : List Token},
    YieldsMember m ts' → ∀ {ts us : List Token}, ts' = ts ++ .word name :: us →
    ∃ f, HasPlace f ∧ ∀ k a, WritesKey k a → YieldsMember (f k) (ts ++ a :: us)
  | _, _, @YieldsMember.pair key _ t _ hk h, ts, us, heq => by
    cases ts with
    | nil =>
      obtain ⟨-, rfl⟩ := List.cons.inj heq
      exact ⟨_, .key t, fun k a ha => .pair ha h⟩
    | cons v ts =>
      obtain ⟨rfl, tail⟩ := List.cons.inj heq
      cases ts with
      | nil => cases tail
      | cons c ts =>
        obtain ⟨rfl, value⟩ := List.cons.inj tail
        obtain ⟨place, around⟩ := h.exists_place value
        exact ⟨_, .value key place, fun k a ha => .pair hk (around k a ha)⟩

theorem YieldsMembers.exists_place : ∀ {ms : List (Key × Template)} {ts' : List Token},
    YieldsMembers ms ts' → ∀ {ts us : List Token}, ts' = ts ++ .word name :: us →
    ∃ before f after, HasPlace f ∧ ∀ k a, WritesKey k a →
      YieldsMembers (before ++ f k :: after) (ts ++ a :: us)
  | _, _, .one h, ts, us, heq => by
    obtain ⟨f, hf, member⟩ := h.exists_place heq
    exact ⟨[], f, [], hf, fun k a ha => .one (member k a ha)⟩
  | _, _, @YieldsMembers.more front m _ _ hs h, ts, us, heq => by
    rcases split_append heq with ⟨vs, inside, rfl⟩ | ⟨vs, rfl, behind⟩
    · obtain ⟨before, f, after, hf, members⟩ := hs.exists_place inside
      refine ⟨before, f, after ++ [m], hf, fun k a ha => ?_⟩
      have more := (members k a ha).more h
      simpa using more
    · cases vs with
      | nil => cases behind
      | cons v vs =>
        obtain ⟨rfl, tail⟩ := List.cons.inj behind
        obtain ⟨f, hf, member⟩ := h.exists_place tail
        refine ⟨front, f, [], hf, fun k a ha => ?_⟩
        have more := hs.more (member k a ha)
        simpa using more

end

/-- The reader takes a plain word only as a key. -/
theorem step_word {s s' : ReaderState} (h : s.step (.word name) = some s') :
    ∃ outer done key, s' = ⟨outer, .colon done key⟩ := by
  obtain ⟨outer, need⟩ := s
  cases need with
  | member done =>
    cases h
    exact ⟨_, _, _, rfl⟩
  | separator v =>
    cases outer with
    | nil => cases h
    | cons frame outer => cases frame <;> cases h
  | value | item | colon | objectIdOpen | objectIdText | objectIdClose => cases h

/-- Behind a key there is a colon. -/
theorem KeyPlace.Around.colon {place : KeyPlace} (h : place.Around ts us) :
    ∃ vs, us = .colon :: vs := by
  have start : ReaderState.NeedsValue [] ReaderState.start := .value
  have run := ReaderState.run_yields (h _ _ (.word "")) start
  rw [ReaderState.run_append, Option.bind_eq_some_iff] at run
  obtain ⟨s, -, run⟩ := run
  rw [ReaderState.run_cons, Option.bind_eq_some_iff] at run
  obtain ⟨s', step, run⟩ := run
  obtain ⟨outer, done, key, rfl⟩ := step_word step
  cases us with
  | nil => cases run
  | cons a us => cases a <;> first | exact ⟨us, rfl⟩ | cases run

/-! ### Words in the place of a key -/

/-- In a text a word stands in the place of a key, with text in front of it and behind it. -/
inductive KeyPlace.Shows (place : KeyPlace) (u w v : List Char) : Prop
  | intro {a : Token} {ts us : List (Placed Token)}
    (tokens : Token.tokens (String.ofList (u ++ w ++ v)) = .ok (ts ++ ⟨a, u.length⟩ :: us))
    (word : Token.rule (String.ofList (u ++ w ++ v)) u.length (w ++ v) = .token a w.length)
    (around : place.Around (ts.map (·.token)) (us.map (·.token)))

/-- In a text a word stands as a key: were it a plain word, the text would be a template. -/
inductive StandsAsKey (u w v : List Char) : Prop
  | intro {a : Token} {ts us : List (Placed Token)} {t : Template} {name : String}
    (tokens : Token.tokens (String.ofList (u ++ w ++ v)) = .ok (ts ++ ⟨a, u.length⟩ :: us))
    (word : Token.rule (String.ofList (u ++ w ++ v)) u.length (w ++ v) = .token a w.length)
    (yields : Yields t (ts.map (·.token) ++ .word name :: us.map (·.token)))

theorem StandsAsKey.exists_place {u w v : List Char} (h : StandsAsKey u w v) :
    ∃ place : KeyPlace, place.Shows u w v := by
  obtain ⟨tokens, word, yields⟩ := h
  obtain ⟨place, around⟩ := yields.exists_place rfl
  exact ⟨place, .intro tokens word around⟩

end LinkedDocs.Template
