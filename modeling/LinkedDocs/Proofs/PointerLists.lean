import LinkedDocs.Proofs.QueryMeaning
import LinkedDocs.Proofs.ReadingEffects

/-! Lists of identifiers.

    One identifier is looked up by being equal to it, and a list of them by being among them. A
    document is among those of the list if it is that of some identifier in it, so a list loads the
    documents of all its identifiers, each of them once and in the order of the store. That is,
    unless an identifier is taken for something else where it stands alone: a regular expression, or
    a document of operators. -/

namespace LinkedDocs

open Value (Entries)

/-- Neither a regular expression nor what may be taken for a document of operators: a mapping has
    either no key at all, or one that names no operator, behind keys that are all texts. -/
structure IsIdentifier (id : Value) : Prop where
  noPattern : ∀ compiled pattern flags, id ≠ .regex compiled pattern flags
  noOperators : ∀ es, id.entries? = some es → es = [] ∨ ∃ front s x rest,
    es = front ++ (.text s, x) :: rest ∧ (∀ e ∈ front, ∃ t, e.1 = .text t) ∧ ¬['$'] <+: s.toList

/-- The reference designates the document: it has the identifier, or a list with the identifier. -/
def Value.designates (token doc : Value) : Bool :=
  Query.equals (doc.entries?.bind (Entries.get? · (.text "_id"))) (referenceId token)

/-! ### Matching -/

namespace Query

variable {id doc : Value} {es : Entries}

theorem allOperators_name {front : Entries} {s : String} (x : Value) (rest : Entries)
    (texts : ∀ e ∈ front, ∃ t, e.1 = .text t) (name : ¬['$'] <+: s.toList) :
    allOperators (front ++ (.text s, x) :: rest) = .ok false := by
  induction front with
  | nil =>
    rw [List.nil_append, allOperators, if_neg fun dollar => name (List.isPrefixOf_iff_prefix.1 dollar)]
  | cons e front ih =>
    rw [List.forall_mem_cons] at texts
    obtain ⟨k, y⟩ := e
    obtain ⟨⟨t, rfl : k = .text t⟩, texts⟩ := texts
    rw [List.cons_append, allOperators, ih texts, ite_self]

theorem isOperators_identifier (h : IsIdentifier id) : isOperators id = .ok false := by
  unfold isOperators
  cases hes : id.entries? with
  | none => rfl
  | some es =>
    rcases h.noOperators es hes with rfl | ⟨front, s, x, rest, rfl, texts, name⟩
    · rfl
    · have all := allOperators_name x rest texts name
      cases front <;> exact all

theorem checkCondition_identifier (h : IsIdentifier id) (value : Option Value) :
    checkCondition value id = .ok (equals value id) := by
  unfold checkCondition
  rw [isOperators_identifier h]
  cases id with
  | regex compiled pattern flags => exact absurd rfl (h.noPattern compiled pattern flags)
  | _ => rfl

/-- A filter for documents that are picked: what is no document cannot be tested. -/
def Picks (filter : Value) (pick : Value → Bool) : Prop :=
  ∀ doc : Value, matchesFilter doc filter =
    if doc.isMapping then .ok (pick doc) else misuse .attribute

/-- A filter for documents with an identifier that passes a test. -/
theorem picks_id {filter : Value} (test : Option Value → Bool)
    (h : ∀ doc, matchesFilter doc filter = fieldValue? doc (.text "_id") >>= fun id => .ok (test id)) :
    Picks filter fun doc => test (doc.entries?.bind (Entries.get? · (.text "_id"))) := by
  intro doc
  have whole : fieldValue? doc (.text "_id") = entry? doc (.text "_id") := by
    rw [fieldValue?, if_neg (by decide)]
  rw [h, whole, entry?, Value.isMapping]
  dsimp only
  cases doc.entries? <;> rfl

theorem picks_alone {token : Value} (ht : token.sequence? = none)
    (h : IsIdentifier (referenceId token)) :
    Picks (Property.pointerFilter token) token.designates := by
  refine picks_id (fun id => equals id (referenceId token)) fun doc => ?_
  rw [Property.pointerFilter, ht]
  simp only
  rw [matchesFilter_single, testField]
  exact bind_congr (checkCondition_identifier h)

theorem picks_list {value : Value} {tokens : List Value} (hv : value.sequence? = some tokens) :
    Picks (Property.pointerFilter value) fun doc => tokens.any (·.designates doc) := by
  refine picks_id (fun id => tokens.any fun t => equals id (referenceId t)) fun doc => ?_
  rw [Property.pointerFilter, hv]
  simp only
  rw [matchesFilter_operator rfl (by decide)]
  refine bind_congr fun id => ?_
  change Except.ok ((tokens.map referenceId).any (equals id)) = _
  rw [List.any_map]
  rfl

end Query

/-! ### Fetching -/

namespace Store

variable {s : Store} {c : Context} {filter : Value} {pick : Value → Bool} {docs : List Value}

/-- The collection of a context can be searched: all in it are documents. -/
def IsSearchable (s : Store) (c : Context) : Prop :=
  s.Addresses c ∧ ∀ d ∈ s.addressed c, d.isMapping = true

theorem select_picks (h : Query.Picks filter pick) (hdocs : ∀ d ∈ docs, d.isMapping = true) :
    select filter docs = .ok (docs.filter pick) := by
  refine select_eq fun d hd => ?_
  rw [h, if_pos (hdocs d hd)]

theorem select_stops (h : Query.Picks filter pick) (hdocs : ¬∀ d ∈ docs, d.isMapping = true) :
    select filter docs = .error (.misuse .attribute) := by
  induction docs with
  | nil => exact absurd (List.forall_mem_nil _) hdocs
  | cons d ds ih =>
    rw [select, h]
    by_cases hd : d.isMapping = true
    · rw [if_pos hd, ih fun hds => hdocs (List.forall_mem_cons.2 ⟨hd, hds⟩)]
      cases pick d <;> rfl
    · rw [if_neg hd]
      rfl

theorem fetchMany_unsorted (hc : c.sort = .null) (ha : s.Addresses c) :
    s.fetchMany c filter = select filter (s.addressed c) := by
  have kept : sortDocuments c.sort = pure := by
    funext docs
    rw [sortDocuments, hc]
    exact if_pos (Bool.or_true _)
  rw [fetchMany_addressed ha, kept, bind_pure]

theorem fetchMany_unaddressed (ha : ¬s.Addresses c) :
    s.fetchMany c filter = .error (.misuse .type) := by
  refine if_pos ?_
  rw [Bool.not_eq_true', Bool.eq_false_iff, Ne, Bool.and_eq_true]
  exact ha

/-- What a fetch without a sort order picks. -/
theorem fetchMany_picks (hc : c.sort = .null) (h : Query.Picks filter pick)
    (hs : s.IsSearchable c) : s.fetchMany c filter = .ok ((s.addressed c).filter pick) := by
  rw [fetchMany_unsorted hc hs.1, select_picks h hs.2]

/-- A collection that cannot be searched fails every such fetch alike. -/
theorem fetchMany_fails (hc : c.sort = .null) (hs : ¬s.IsSearchable c) :
    ∃ e, ∀ filter pick, Query.Picks filter pick → s.fetchMany c filter = .error e := by
  by_cases ha : s.Addresses c
  · refine ⟨.misuse .attribute, fun filter pick h => ?_⟩
    rw [fetchMany_unsorted hc ha]
    exact select_stops h fun hdocs => hs ⟨ha, hdocs⟩
  · exact ⟨.misuse .type, fun filter pick _ => fetchMany_unaddressed ha⟩

end Store

/-! ### Reading -/

namespace Property

variable {σ : Type} {p : Property} {o : Option PointerOptions} {v value : Value} {c : Context}

/-- Documents as the value of a property with several references. -/
def deliver (convert : Converter σ) (docs : List Value) : Run σ Value := do
  let vs ← convertAll convert docs
  pure (.list vs)

theorem pointer_context_sort (hl : p.link = .pointer o) (h : p.context v = .ok c) :
    c.sort = .null := by
  have single {w : Value} (h : p.singleContext w = .ok c) : c.sort = .null := by
    rw [singleContext, hl] at h
    obtain rfl := Except.ok.inj h
    unfold pointerContext
    split
    · rfl
    · split <;> rfl
  unfold context at h
  split at h
  · exact single h
  · obtain rfl := Except.ok.inj h
    rfl
  · exact single h

/-- A property of identifiers looks up what its filter picks. -/
theorem pointer_looksUp (hl : p.link = .pointer o) (hv : p.isVacant v = false)
    (h : p.context v = .ok c) : p.LooksUp v c (pointerFilter v) := by
  refine ⟨hv, ?_, h⟩
  rw [filter, isTemplated, hl]
  rfl

/-- What is loaded is what is fetched. -/
theorem exec_load_pointers (store : σ → Store) (convert : Converter σ) (s : σ)
    (hl : p.link = .pointer o) (hm : p.isMulti = true) (hv : p.isVacant v = false)
    (h : p.context v = .ok c) : (p.load v (Loader.ofStore store) convert).exec s =
      (Run.lift ((store s).fetchMany c (pointerFilter v)) >>= deliver convert).exec s := by
  have arranged (docs : List Value) : p.collect convert v (pointerFilter v) docs
      = deliver convert docs := by
    have kept : p.arrange v (pointerFilter v) docs = .ok docs := by
      rw [arrange, isTemplated, hl]
      rfl
    unfold collect
    rw [if_pos hm, kept]
    rfl
  have many : p.lookupFunction (Loader.ofStore store) c (pointerFilter v)
      = (Loader.ofStore store).fetchMany c (pointerFilter v) := by
    rw [lookupFunction, hm]
    rfl
  rw [load, exec_read (pointer_looksUp hl hv h), many, funext arranged, Run.exec_bind, Run.exec_bind]
  rfl

/-- A list of references by identifier that have one context loads the documents that any of them
    designates, in the order of the store, and each reference alone loads those that it designates.
    A collection that cannot be searched fails them all alike. -/
theorem list_loads_union (store : σ → Store) (convert : Converter σ) (s : σ)
    (hl : p.link = .pointer o) (hm : p.isMulti = true) {tokens : List Value}
    (hv : value.sequence? = some tokens) (nonempty : tokens ≠ [])
    (single : ∀ t ∈ tokens, t.sequence? = none)
    (plain : ∀ t ∈ tokens, IsIdentifier (referenceId t))
    (hc : ∀ t ∈ tokens, p.context t = .ok c) :
    ((store s).IsSearchable c →
      (∀ t ∈ tokens, (p.load t (Loader.ofStore store) convert).exec s =
        (deliver convert (((store s).addressed c).filter t.designates)).exec s) ∧
      (p.load value (Loader.ofStore store) convert).exec s =
        (deliver convert (((store s).addressed c).filter fun d =>
          tokens.any (·.designates d))).exec s) ∧
    (¬(store s).IsSearchable c → ∃ e,
      (∀ t ∈ tokens, (p.load t (Loader.ofStore store) convert).exec s = (.error e, s)) ∧
      (p.load value (Loader.ofStore store) convert).exec s = (.error e, s)) := by
  obtain ⟨first, others, rfl⟩ := List.exists_cons_of_ne_nil nonempty
  have sort : c.sort = .null := pointer_context_sort hl (hc first List.mem_cons_self)
  have context : p.context value = .ok c := by
    have alone := hc first List.mem_cons_self
    rw [Property.context, single first List.mem_cons_self] at alone
    rw [Property.context, hv]
    exact alone
  have vacant : p.isVacant value = false := by
    rw [isVacant, hv, Bool.and_false]
  have vacant_token : ∀ t ∈ first :: others, p.isVacant t = false := fun t ht => by
    rw [isVacant, single t ht, Bool.and_false]
  have load_list := exec_load_pointers store convert s hl hm vacant context
  have load_token (t : Value) (ht : t ∈ first :: others) :=
    exec_load_pointers store convert s hl hm (vacant_token t ht) (hc t ht)
  have alone (t : Value) (ht : t ∈ first :: others) := Query.picks_alone (single t ht) (plain t ht)
  have list := Query.picks_list hv
  constructor
  · intro searchable
    refine ⟨fun t ht => ?_, ?_⟩
    · rw [load_token t ht, Store.fetchMany_picks sort (alone t ht) searchable]
      rfl
    · rw [load_list, Store.fetchMany_picks sort list searchable]
      rfl
  · intro unsearchable
    obtain ⟨e, fails⟩ := Store.fetchMany_fails sort unsearchable
    refine ⟨e, fun t ht => ?_, ?_⟩
    · rw [load_token t ht, fails _ _ (alone t ht)]
      rfl
    · rw [load_list, fails _ _ list]
      rfl

end Property

namespace Pointers

def publishers : Property :=
  ⟨"publishers", "publishers", .mapping none, "publisher", true, false, .pointer none⟩

def byId (id : Value) : Value := .map [(.text "_id", id)]

def stored (ids : List Value) : Store :=
  ⟨.text "default", .null, ids.map fun id => ⟨.text "default", .text "publisher", byId id⟩⟩

/-- What a reference value loads from the store. -/
def load (ids : List Value) (v : Value) : Except Failure Value × Store :=
  (publishers.load v (Loader.ofStore id) pure).exec (stored ids)

/-- A mapping with a number for a key. -/
def numbered : Value := .map [(.int 1, .int 2)]

/-- A document is found by a list that only holds a reference by which it is not found. -/
theorem numbered_is_misused :
    load [numbered] (.list [byId numbered]) = (.ok (.list [byId numbered]), stored [numbered]) ∧
      ¬∃ docs s, load [numbered] (byId numbered) = (.ok (.list docs), s) ∧ byId numbered ∈ docs := by
  constructor
  · with_unfolding_all rfl
  · rintro ⟨docs, s, found, -⟩
    have misused : (load [numbered] (byId numbered)).1 = .error (.misuse .attribute) := by
      with_unfolding_all rfl
    rw [found] at misused
    cases misused

/-- Identifiers of four documents; one of them is a list. -/
def ids : List Value := [.text "p3", .text "p2", .list [.text "p1", .text "p4"], .text "p1"]

/-- A text, a pointer and a mapping, two of them with one identifier. -/
def tokens : List Value :=
  [.text "p1", .dbRef "publisher" (.text "p2") none [], .map [(.text "id", .text "p1")]]

theorem isIdentifier_text (s : String) : IsIdentifier (.text s) := ⟨nofun, nofun⟩

theorem context_tokens : ∀ t ∈ tokens,
    publishers.context t = .ok ⟨.null, .text "publisher", .null⟩ := by
  simp only [tokens, List.forall_mem_cons]
  exact ⟨rfl, rfl, rfl, List.forall_mem_nil _⟩

theorem searchable : (stored ids).IsSearchable ⟨.null, .text "publisher", .null⟩ := by
  have docs : (stored ids).addressed ⟨.null, .text "publisher", .null⟩ = ids.map byId := by
    with_unfolding_all rfl
  refine ⟨⟨rfl, rfl⟩, fun d hd => ?_⟩
  rw [docs] at hd
  obtain ⟨id, -, rfl⟩ := List.mem_map.1 hd
  rfl

/-- A document is loaded once, though two references designate it, and after one that comes before
    it in the store. -/
theorem list_loads_each_once : load ids (.list tokens) =
    (.ok (.list [byId (.text "p2"), byId (.list [.text "p1", .text "p4"]), byId (.text "p1")]),
      stored ids) := by
  have hv : (Value.list tokens).sequence? = some tokens := rfl
  have single : ∀ t ∈ tokens, t.sequence? = none := by
    simp only [tokens, List.forall_mem_cons]
    exact ⟨rfl, rfl, rfl, List.forall_mem_nil _⟩
  have plain : ∀ t ∈ tokens, IsIdentifier (referenceId t) := by
    simp only [tokens, List.forall_mem_cons]
    exact ⟨isIdentifier_text "p1", isIdentifier_text "p2", isIdentifier_text "p1",
      List.forall_mem_nil _⟩
  obtain ⟨-, union⟩ := (publishers.list_loads_union id pure (stored ids) rfl rfl hv
    (List.cons_ne_nil _ _) single plain context_tokens).1 searchable
  exact union.trans (by with_unfolding_all rfl)

end Pointers

end LinkedDocs
