import LinkedDocs.Proofs.StoreOrder

/-! A store over a whole run of calls.

    Calls insert documents, one or several, and fetch them; a call that fails leaves the store as it
    is. So after any run the store holds what was inserted, in order, each document under the
    database and collection it went to. A fetch takes from there what its context addresses and its
    filter matches. Sorting passes over the fields from the last to the first, each pass stable:
    together they order the documents lexicographically by the sort keys that a database would be
    asked for, ties as they were inserted. -/

namespace LinkedDocs.Store

open Sorting (StableOrder ofRank)

/-! ### Calls -/

/-- A call to a store. -/
inductive Step where
  | insert (collection document database : Value)
  | insertAll (collection database : Value) (documents : List Value)
  | fetchMany (c : Context) (filter : Value)
  | fetchOne (c : Context) (filter : Value)

/-- The store after a call. -/
def perform (s : Store) : Step → Store
  | .insert collection document database =>
    (s.insert collection document database).toOption.getD s
  | .insertAll collection database documents =>
    (s.insertAll collection database documents).toOption.getD s
  | .fetchMany .. | .fetchOne .. => s

/-- The store after a run of calls. -/
def run (s : Store) (steps : List Step) : Store := steps.foldl perform s

/-- The rows for documents that go to one collection, if its names can be looked up. -/
def rowsFor (database collection : Value) (documents : List Value) : List Row :=
  if database.hashable && collection.hashable then
    documents.map fun d => ⟨database, collection, d⟩
  else []

/-- What a call inserts, where `database` is meant if it names none. -/
def Step.inserted (database : Value) : Step → List Row
  | .insert collection document db => rowsFor (orDefault db database) collection [document]
  | .insertAll collection db documents => rowsFor (orDefault db database) collection documents
  | .fetchMany .. | .fetchOne .. => []

variable {s : Store} {collection database : Value}

theorem insert_eq (s : Store) (collection document database : Value) :
    (s.insert collection document database).toOption.getD s
      = { s with rows := s.rows ++ rowsFor (orDefault database s.database) collection [document] } := by
  rw [insert, rowsFor]
  split
  · rfl
  · rw [List.append_nil]
    rfl

theorem insertAll_ok (h : ((orDefault database s.database).hashable && collection.hashable) = true)
    (documents : List Value) : s.insertAll collection database documents = .ok { s with
      rows := s.rows ++ rowsFor (orDefault database s.database) collection documents } := by
  induction documents generalizing s with
  | nil => simp [insertAll, rowsFor]
  | cons d ds ih =>
    rw [insertAll, insert, if_pos h]
    change insertAll { s with rows := s.rows ++ [⟨orDefault database s.database, collection, d⟩] }
      collection database ds = _
    refine (ih ?_).trans ?_
    · exact h
    · simp [rowsFor, h]

/-- The names are the same for all documents, so the first insertion fails or none does. -/
theorem insertAll_eq (s : Store) (collection database : Value) (documents : List Value) :
    (s.insertAll collection database documents).toOption.getD s = { s with
      rows := s.rows ++ rowsFor (orDefault database s.database) collection documents } := by
  cases h : (orDefault database s.database).hashable && collection.hashable with
  | true =>
    rw [insertAll_ok h]
    rfl
  | false =>
    have none : rowsFor (orDefault database s.database) collection documents = [] := by
      rw [rowsFor, h]
      rfl
    rw [none, List.append_nil]
    cases documents with
    | nil => rfl
    | cons d ds =>
      rw [insertAll, insert, h]
      rfl

/-- A call adds what it inserts, and nothing else changes. -/
theorem perform_eq (s : Store) (step : Step) :
    s.perform step = { s with rows := s.rows ++ step.inserted s.database } := by
  cases step with
  | insert collection document database => exact insert_eq s collection document database
  | insertAll collection database documents => exact insertAll_eq s collection database documents
  | fetchMany => simp [perform, Step.inserted]
  | fetchOne => simp [perform, Step.inserted]

/-- A run adds what its calls insert, in order. -/
theorem run_eq (s : Store) (steps : List Step) :
    s.run steps = { s with rows := s.rows ++ steps.flatMap (Step.inserted s.database) } := by
  induction steps generalizing s with
  | nil => simp [run]
  | cons step steps ih =>
    have next : s.run (step :: steps) = (s.perform step).run steps := rfl
    rw [next, ih, perform_eq, List.flatMap_cons, List.append_assoc]

/-! ### Arranging documents -/

/-- `ys` are the documents arranged by a comparison: none stands behind a greater one, and those
    that tie with a document stand as they were. -/
structure Arranged (compare : Value → Value → Ordering) (docs ys : List Value) : Prop where
  perm : ys.Perm docs
  ascending : ys.Pairwise fun d d' => compare d d' ≠ .gt
  ties : ∀ d ∈ docs, ys.filter (fun d' => compare d d' == .eq)
    = docs.filter fun d' => compare d d' == .eq

/-- A stable order by ranks that compare as the documents do. -/
theorem Arranged.of_stableOrder {κ : Type} [LinearOrder κ] {rank : Value → κ}
    {compare : Value → Value → Ordering} {docs ys : List Value}
    (hrank : ∀ d ∈ docs, ∀ d' ∈ docs, compare d d' = cmp (rank d) (rank d'))
    (h : StableOrder rank docs ys) : Arranged compare docs ys := by
  refine ⟨h.perm, h.ascending.imp_of_mem fun {d d'} hd hd' hle => ?_, fun d hd => ?_⟩
  · rw [hrank d (h.mem_iff.1 hd) d' (h.mem_iff.1 hd'), Ne, cmp_eq_gt_iff]
    exact hle.not_gt
  · have ofRank_eq : ∀ zs ⊆ docs,
        zs.filter (fun d' => compare d d' == .eq) = ofRank rank (rank d) zs := by
      intro zs hzs
      refine List.filter_congr fun d' hd' => ?_
      rw [hrank d hd d' (hzs hd'), Bool.beq_eq_decide_eq, decide_eq_decide, cmp_eq_eq_iff]
      exact eq_comm
    rw [ofRank_eq ys h.perm.subset, ofRank_eq docs (List.Subset.refl docs)]
    exact h.arrival (rank d)

/-- Sorting arranges the documents by the keys that a database would be asked to sort by. -/
theorem sortDocuments_arranged {sort : Value} {docs : List Value} (h : Sortable sort docs)
    (hs : sort.truthy = true → sort.isMapping = true) :
    ∃ keys, Remote.sortKeys sort = .ok keys ∧ ∃ ys, sortDocuments sort docs = .ok ys ∧
      Arranged (compareAll (keys.getD [])) docs ys ∧ (sort.truthy = false → ys = docs) := by
  cases ht : sort.truthy with
  | false =>
    have hkeys : Remote.sortKeys sort = .ok none := by
      rw [Remote.sortKeys, ht]
      rfl
    have hsort : sortDocuments sort docs = .ok docs := by
      rw [sortDocuments, ht]
      simp
    refine ⟨none, hkeys, docs, hsort, ⟨.refl docs, ?_, fun _ _ => rfl⟩, fun _ => rfl⟩
    exact List.pairwise_of_forall fun _ _ => by simp [compareAll]
  | true =>
    obtain ⟨es, hes⟩ := Option.isSome_iff_exists.mp (hs ht)
    obtain ⟨κ, _, rank, hcompare, hpasses⟩ := sortByAll_eq (h es hes)
    obtain ⟨ys, hys, hst⟩ := hpasses docs (List.Subset.refl docs)
    have hkeys : Remote.sortKeys sort = .ok (some (keysOf es)) := by
      rw [Remote.sortKeys, ht, hes]
      rfl
    have hsort : sortDocuments sort docs = .ok ys := by
      cases docs with
      | nil =>
        have hnil : ys = [] := hst.perm.eq_nil
        rw [hnil]
        rfl
      | cons d ds =>
        rw [sortDocuments, ht, hes]
        exact hys
    exact ⟨_, hkeys, ys, hsort, .of_stableOrder hcompare hst, by simp⟩

/-! ### Fetching after a run -/

/-- The documents that calls insert into the collection that a context means, in order. -/
def located (database collection : Value) (steps : List Step) (c : Context) : List Value :=
  let rows := steps.flatMap (Step.inserted database)
  let here (r : Row) : Bool := (orDefault c.database database).equal r.database &&
    (orDefault c.collection collection).equal r.collection
  (rows.filter here).map (·.document)

/-- The documents that a filter matches. -/
def matched (filter : Value) (docs : List Value) : List Value :=
  docs.filter fun d => (Query.matchesFilter d filter).toOption.getD false

theorem addressed_run (database collection : Value) (steps : List Step) (c : Context) :
    ((empty database collection).run steps).addressed c = located database collection steps c := by
  rw [run_eq]
  rfl

/-- After any run of calls on an empty store, a fetch finds what was inserted into the collection it
    addresses and matches its filter, arranged lexicographically by the sort keys that a database is
    asked for, a missing value below all others and ties as they were inserted; without a sort the
    documents stand as they were inserted. Fetching one finds the first of them, if there is one. -/
theorem fetch_after_run (database collection : Value) (steps : List Step) (c : Context)
    (filter : Value) (names : (empty database collection).Addresses c)
    (matching : ∀ d ∈ located database collection steps c,
      ∃ b, Query.matchesFilter d filter = .ok b)
    (comparable : Sortable c.sort (matched filter (located database collection steps c)))
    (sorting : c.sort.truthy = true → c.sort.isMapping = true) :
    ∃ keys, Remote.sortKeys c.sort = .ok keys ∧
      ∃ ys, ((empty database collection).run steps).fetchMany c filter = .ok ys ∧
        Arranged (compareAll (keys.getD [])) (matched filter (located database collection steps c)) ys ∧
        (c.sort.truthy = false → ys = matched filter (located database collection steps c)) ∧
        ((empty database collection).run steps).fetchOne c filter = .ok ys.head? := by
  obtain ⟨keys, hkeys, ys, hys, arranged, unsorted⟩ := sortDocuments_arranged comparable sorting
  have hselect : select filter (located database collection steps c)
      = .ok (matched filter (located database collection steps c)) := by
    refine select_eq fun d hd => ?_
    obtain ⟨b, hb⟩ := matching d hd
    rw [hb]
    rfl
  have hmany : ((empty database collection).run steps).fetchMany c filter = .ok ys := by
    have hdocs := addressed_run database collection steps c
    have hnames : ((empty database collection).run steps).Addresses c := by
      rw [run_eq]
      exact names
    rw [fetchMany, hnames.1, hnames.2]
    simp only [Bool.and_self, Bool.not_true, Bool.false_eq_true, if_false]
    rw [show documents _ _ _ = addressed _ c from rfl, hdocs, hselect]
    exact hys
  refine ⟨keys, hkeys, ys, hmany, arranged, unsorted, ?_⟩
  rw [fetchOne, hmany]
  rfl

/-- A document with a number and two fields that may be missing. -/
def ranked (n : Int) (group rank : Option Int) : Value :=
  .map ([(.text "n", .int n)] ++ (group.map fun g => (.text "group", .int g)).toList ++
    (rank.map fun r => (.text "rank", .int r)).toList)

/-- Up by one field, down by the other. -/
def byGroup : Context :=
  ⟨.null, .text "c", .map [(.text "group", .int 1), (.text "rank", .text "desc")]⟩

/-- Insertions with a database that is named, empty and missing, one into another database, one
    under a name that cannot be looked up, and a fetch with an operator that does not exist. -/
def sampleRun : List Step :=
  [.insert (.text "c") (ranked 1 (some 2) (some 1)) .null,
    .insertAll (.text "c") (.text "default") [ranked 2 (some 1) none, ranked 3 (some 2) (some 5)],
    .fetchMany byGroup (.map [(.text "n", .map [(.text "$near", .int 1)])]),
    .insert (.text "c") (ranked 4 none (some 9)) (.text "other"),
    .insert (.list []) (ranked 5 none none) .null,
    .insertAll (.text "c") (.text "") [ranked 6 (some 1) (some 7), ranked 7 none none,
      ranked 8 (some 2) (some 5)]]

def sampleFilter : Value := .map [(.text "n", .map [(.text "$gt", .int 1)])]

theorem located_sampleRun : located (.text "default") .null sampleRun byGroup
    = [ranked 1 (some 2) (some 1), ranked 2 (some 1) none, ranked 3 (some 2) (some 5),
      ranked 6 (some 1) (some 7), ranked 7 none none, ranked 8 (some 2) (some 5)] := by
  with_unfolding_all rfl

theorem matched_sampleRun : matched sampleFilter (located (.text "default") .null sampleRun byGroup)
    = [ranked 2 (some 1) none, ranked 3 (some 2) (some 5), ranked 6 (some 1) (some 7),
      ranked 7 none none, ranked 8 (some 2) (some 5)] := by
  rw [located_sampleRun]
  with_unfolding_all rfl

theorem sortable_sampleRun : Sortable byGroup.sort
    (matched sampleFilter (located (.text "default") .null sampleRun byGroup)) := by
  have hdocs : ∀ d ∈ matched sampleFilter (located (.text "default") .null sampleRun byGroup),
      ∃ n group rank, d = ranked n group rank := by
    rw [matched_sampleRun]
    simp only [List.forall_mem_cons, List.not_mem_nil, false_implies, implies_true, and_true]
    exact ⟨⟨_, _, _, rfl⟩, ⟨_, _, _, rfl⟩, ⟨_, _, _, rfl⟩, ⟨_, _, _, rfl⟩, ⟨_, _, _, rfl⟩⟩
  intro es hes e he
  obtain rfl := Option.some.inj hes
  rcases List.mem_pair.mp he with rfl | rfl <;> refine comparableBy_int fun d hd => ?_
  · obtain ⟨n, group, rank, rfl⟩ := hdocs d hd
    refine ⟨group, ?_⟩
    cases group <;> cases rank <;> rfl
  · obtain ⟨n, group, rank, rfl⟩ := hdocs d hd
    refine ⟨rank, ?_⟩
    cases group <;> cases rank <;> rfl

/-- The document without a group comes first; in a group the ranks fall, the one without a rank
    comes last, and two documents with one rank stand as they were inserted. -/
theorem fetch_sampleRun :
    Remote.sortKeys byGroup.sort = .ok (some [(.text "group", 1), (.text "rank", -1)]) ∧
    ((empty (.text "default") .null).run sampleRun).fetchMany byGroup sampleFilter
      = .ok [ranked 7 none none, ranked 6 (some 1) (some 7), ranked 2 (some 1) none,
        ranked 3 (some 2) (some 5), ranked 8 (some 2) (some 5)] ∧
    ((empty (.text "default") .null).run sampleRun).fetchOne byGroup sampleFilter
      = .ok (some (ranked 7 none none)) := by
  have matching : ∀ d ∈ located (.text "default") .null sampleRun byGroup,
      ∃ b, Query.matchesFilter d sampleFilter = .ok b := by
    rw [located_sampleRun]
    simp only [List.forall_mem_cons, List.not_mem_nil, false_implies, implies_true, and_true]
    exact ⟨⟨_, rfl⟩, ⟨_, rfl⟩, ⟨_, rfl⟩, ⟨_, rfl⟩, ⟨_, rfl⟩, ⟨_, rfl⟩⟩
  obtain ⟨keys, hkeys, ys, hys, -, -, hone⟩ := fetch_after_run (.text "default") .null sampleRun
    byGroup sampleFilter ⟨rfl, rfl⟩ matching sortable_sampleRun fun _ => rfl
  have hmany : ((empty (.text "default") .null).run sampleRun).fetchMany byGroup sampleFilter
      = .ok [ranked 7 none none, ranked 6 (some 1) (some 7), ranked 2 (some 1) none,
        ranked 3 (some 2) (some 5), ranked 8 (some 2) (some 5)] := by
    with_unfolding_all rfl
  obtain rfl := Except.ok.inj (hys.symm.trans hmany)
  exact ⟨by with_unfolding_all rfl, hmany, hone⟩

end LinkedDocs.Store
