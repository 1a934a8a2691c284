import LinkedDocs.Proofs.StableSorting
import LinkedDocs.Store.Memory
import LinkedDocs.Store.Remote

/-! What a store's sorting keeps.

    A store sorts what a filter found field by field, from the last one to the first. Where the
    values of each field can be compared with each other, every such pass is a stable sort by rank,
    and all passes together are one by the ranks of all fields, the first field deciding most. So
    sorting and then leaving documents out is leaving them out and then sorting. Hence one sorted
    list of all documents of a collection holds the answers to all filters. -/

namespace LinkedDocs.Store

open Value (Entries)
open Sorting (StableOrder)

/-- The documents of the collection that a context means. -/
def addressed (s : Store) (c : Context) : List Value :=
  s.documents (orDefault c.database s.database) (orDefault c.collection s.collection)

/-- The context's database and collection can be looked up. -/
def Addresses (s : Store) (c : Context) : Prop :=
  (orDefault c.database s.database).hashable = true ∧
    (orDefault c.collection s.collection).hashable = true

/-- The values of the field in the documents are comparable: the field can be read, and comparing
    two values that are not null is comparing their ranks in some linear order. -/
def ComparableBy (field : Value) (docs : List Value) : Prop :=
  (∀ d ∈ docs, ∃ k, sortKey field d = .ok k) ∧
  ∃ (κ : Type) (_ : LinearOrder κ) (rank : Value → κ),
    ∀ d ∈ docs, ∀ d' ∈ docs, ∀ v w, sortKey field d = .ok (some v) → sortKey field d' = .ok (some w) →
      keyBefore (some v) (some w) = .ok (decide (rank v < rank w))

/-- All fields of a sort document have comparable values. -/
def Sortable (sort : Value) (docs : List Value) : Prop :=
  ∀ es, sort.entries? = some es → ∀ e ∈ es, ComparableBy e.1 docs

/-- Integers are comparable, and fields without a value do not matter. -/
theorem comparableBy_int {field : Value} {docs : List Value}
    (h : ∀ d ∈ docs, ∃ n : Option Int, sortKey field d = .ok (n.map .int)) :
    ComparableBy field docs := by
  refine ⟨fun d hd => ?_, Int, inferInstance, fun v => v.int?.getD 0, fun d hd d' hd' v w hv hw => ?_⟩
  · obtain ⟨n, hn⟩ := h d hd
    exact ⟨_, hn⟩
  · obtain ⟨m, hm⟩ := h d hd
    obtain ⟨n, hn⟩ := h d' hd'
    rw [hm] at hv
    rw [hn] at hw
    obtain ⟨m, rfl, rfl⟩ := Option.map_eq_some_iff.mp (Except.ok.inj hv)
    obtain ⟨n, rfl, rfl⟩ := Option.map_eq_some_iff.mp (Except.ok.inj hw)
    have hless : keyBefore (some (.int m)) (some (.int n)) =
        if m == n then .ok false else .ok (decide (m < n)) := rfl
    rw [hless]
    split
    · rename_i heq
      rw [eq_of_beq heq]
      simp
    · rfl

/-! ### One field -/

/-- The key of a document whose field can be read. -/
def key (field doc : Value) : Option Value := (sortKey field doc).toOption.join

theorem key_eq {field doc : Value} {k : Option Value} (h : sortKey field doc = .ok k) :
    key field doc = k := by
  rw [key, h]
  rfl

theorem withKeys_eq {field : Value} {docs : List Value}
    (h : ∀ d ∈ docs, ∃ k, sortKey field d = .ok k) :
    withKeys field docs = .ok (docs.map fun d => (key field d, d)) := by
  induction docs with
  | nil => rfl
  | cons d ds ih =>
    obtain ⟨k, hk⟩ := h d (by simp)
    rw [withKeys, hk, ih fun d' hd => h d' (by simp [hd]), List.map_cons, key_eq hk]
    rfl

variable {κ : Type} [LinearOrder κ]

/-- The rank of a key: a missing one is below all values. -/
def keyRank (rank : Value → κ) (k : Option Value) : WithBot κ := k.map rank

theorem keyBefore_eq {rank : Value → κ} {j k : Option Value}
    (h : ∀ v w, j = some v → k = some w →
      keyBefore (some v) (some w) = .ok (decide (rank v < rank w))) :
    keyBefore j k = .ok (decide (keyRank rank j < keyRank rank k)) := by
  match j, k with
  | none, none => rfl
  | none, some w =>
    have hlt : keyRank rank none < keyRank rank (some w) := WithBot.bot_lt_coe _
    simp [keyBefore, hlt]
  | some v, none =>
    have hlt : ¬ keyRank rank (some v) < keyRank rank none := not_lt_bot
    simp [keyBefore, hlt]
  | some v, some w =>
    have hiff : keyRank rank (some v) < keyRank rank (some w) ↔ rank v < rank w :=
      WithBot.coe_lt_coe
    rw [h v w rfl rfl]
    simp only [hiff]

/-- Whether a value goes before another one: they are not equal, and it is less. -/
def precedes (v w : Value) : Bool := !v.equal w && ((v.less w).toOption.getD false)

/-- How two keys compare: a missing one is below all values. -/
def compareKeys : Option Value → Option Value → Ordering
  | none, none => .eq
  | none, some _ => .lt
  | some _, none => .gt
  | some v, some w => if precedes v w then .lt else if precedes w v then .gt else .eq

/-- How two documents compare by a field, the other way round if the direction is down. -/
def compareBy (field : Value) (down : Bool) (d d' : Value) : Ordering :=
  let o := compareKeys (key field d) (key field d')
  if down then o.swap else o

theorem precedes_eq {v w : Value} {b : Bool} (h : keyBefore (some v) (some w) = .ok b) :
    precedes v w = b := by
  rw [keyBefore] at h
  rw [precedes]
  cases heq : v.equal w with
  | true =>
    rw [heq] at h
    exact Except.ok.inj h
  | false =>
    rw [heq] at h
    cases hless : v.less w with
    | error m =>
      rw [hless] at h
      cases h
    | ok r =>
      rw [hless] at h
      exact Except.ok.inj h

theorem compareKeys_eq {rank : Value → κ} {j k : Option Value}
    (h : ∀ v w, j = some v → k = some w →
      precedes v w = decide (rank v < rank w) ∧ precedes w v = decide (rank w < rank v)) :
    compareKeys j k = cmp (keyRank rank j) (keyRank rank k) := by
  match j, k with
  | none, none => exact (cmp_self_eq_eq _).symm
  | none, some w =>
    have hlt : keyRank rank none < keyRank rank (some w) := WithBot.bot_lt_coe _
    exact hlt.cmp_eq_lt.symm
  | some v, none =>
    have hlt : keyRank rank none < keyRank rank (some v) := WithBot.bot_lt_coe _
    exact hlt.cmp_eq_gt.symm
  | some v, some w =>
    obtain ⟨hvw, hwv⟩ := h v w rfl rfl
    have hiff : ∀ v w, keyRank rank (some v) < keyRank rank (some w) ↔ rank v < rank w :=
      fun _ _ => WithBot.coe_lt_coe
    rw [compareKeys, hvw, hwv, cmp, cmpUsing]
    simp only [hiff, decide_eq_true_eq]

/-- Sorting by a field is a stable order by one rank, whichever of the documents are sorted, and the
    ranks compare as the documents do. -/
theorem sortBy_eq {field : Value} (direction : Value) {docs : List Value}
    (h : ComparableBy field docs) :
    ∃ (κ : Type) (_ : LinearOrder κ) (rank : Value → κ),
      (∀ d ∈ docs, ∀ d' ∈ docs,
        compareBy field (isDescending direction) d d' = cmp (rank d) (rank d')) ∧
      ∀ docs' ⊆ docs,
        ∃ ys : List Value, sortBy field direction docs' = .ok ys ∧ StableOrder rank docs' ys := by
  obtain ⟨hread, κ, _, rank, hrank⟩ := h
  let before (a b : Option Value × Value) : Except Failure Bool := keyBefore a.1 b.1
  let withKey (d : Value) : Option Value × Value := (key field d, d)
  have hkeyed : ∀ d ∈ docs, ∀ v, key field d = some v → sortKey field d = .ok (some v) := by
    intro d hd v hv
    obtain ⟨k, hk⟩ := hread d hd
    rw [hk, ← key_eq hk, hv]
  have hranked : ∀ docs' ⊆ docs,
      Sorting.RankedBy before (fun p => keyRank rank p.1) (docs'.map withKey) := by
    intro docs' hs a ha b hb
    obtain ⟨d, hd, rfl⟩ := List.mem_map.mp ha
    obtain ⟨d', hd', rfl⟩ := List.mem_map.mp hb
    exact keyBefore_eq fun v w hv hw =>
      hrank d (hs hd) d' (hs hd') v w (hkeyed d (hs hd) v hv) (hkeyed d' (hs hd') w hw)
  have hcompare : ∀ d ∈ docs, ∀ d' ∈ docs, compareKeys (key field d) (key field d')
      = cmp (keyRank rank (key field d)) (keyRank rank (key field d')) := by
    intro d hd d' hd'
    exact compareKeys_eq fun v w hv hw =>
      ⟨precedes_eq (hrank d hd d' hd' v w (hkeyed d hd v hv) (hkeyed d' hd' w hw)),
        precedes_eq (hrank d' hd' d hd w v (hkeyed d' hd' w hw) (hkeyed d hd v hv))⟩
  have hkeys : ∀ docs' ⊆ docs, withKeys field docs' = .ok (docs'.map withKey) :=
    fun docs' hs => withKeys_eq fun d hd => hread d (hs hd)
  have hinv : Function.LeftInverse Prod.snd withKey := fun _ => rfl
  cases hd : isDescending direction with
  | false =>
    refine ⟨WithBot κ, inferInstance, fun d => keyRank rank (key field d), hcompare,
      fun docs' hs => ?_⟩
    obtain ⟨ys, hys, hst⟩ := Sorting.sort_eq (hranked docs' hs)
    refine ⟨ys.map Prod.snd, ?_, hst.unmap hinv⟩
    rw [sortBy, hkeys docs' hs, hd]
    exact congrArg (Except.map _) hys
  | true =>
    refine ⟨(WithBot κ)ᵒᵈ, inferInstance,
      fun d => OrderDual.toDual (keyRank rank (key field d)), fun d hdoc d' hdoc' => ?_,
      fun docs' hs => ?_⟩
    · rw [compareBy, hcompare d hdoc d' hdoc', if_pos rfl, cmp_swap]
      rfl
    obtain ⟨ys, hys, hst⟩ := Sorting.sortDown_eq (hranked docs' hs)
    refine ⟨ys.map Prod.snd, ?_, hst.unmap hinv⟩
    rw [sortBy, hkeys docs' hs, hd]
    exact congrArg (Except.map _) hys

/-! ### All fields -/

/-- How two documents compare by the first key on which they differ. -/
def compareAll : Remote.SortKeys → Value → Value → Ordering
  | [], _, _ => .eq
  | (field, direction) :: keys, d, d' =>
    (compareBy field (direction == -1) d d').then (compareAll keys d d')

/-- The sort keys of the fields of a sort document. -/
def keysOf (es : Entries) : Remote.SortKeys :=
  es.map fun e => (e.1, if isDescending e.2 then -1 else 1)

/-- Pairs compare by their first parts, and by their second ones between equal first parts. -/
theorem cmp_toLex {κ' : Type} [LinearOrder κ'] (a a' : κ) (b b' : κ') :
    cmp (toLex (a, b)) (toLex (a', b')) = (cmp a a').then (cmp b b') := by
  rcases lt_trichotomy a a' with hlt | rfl | hgt
  · have pairs : toLex (a, b) < toLex (a', b') := Prod.Lex.toLex_lt_toLex.2 (.inl hlt)
    rw [hlt.cmp_eq_lt, pairs.cmp_eq_lt]
    rfl
  · have pairs : ∀ x y : κ', toLex (a, x) < toLex (a, y) ↔ x < y := by
      simp [Prod.Lex.toLex_lt_toLex]
    rw [cmp_self_eq_eq, cmp, cmpUsing]
    simp only [pairs]
    rfl
  · have pairs : toLex (a', b') < toLex (a, b) := Prod.Lex.toLex_lt_toLex.2 (.inl hgt)
    rw [hgt.cmp_eq_gt, pairs.cmp_eq_gt]
    rfl

/-- The passes over the fields, from the last to the first, make one stable order, whichever of the
    documents are sorted, and its ranks compare as the documents do. -/
theorem sortByAll_eq {es : Entries} {docs : List Value} (h : ∀ e ∈ es, ComparableBy e.1 docs) :
    ∃ (κ : Type) (_ : LinearOrder κ) (rank : Value → κ),
      (∀ d ∈ docs, ∀ d' ∈ docs, compareAll (keysOf es) d d' = cmp (rank d) (rank d')) ∧
      ∀ docs' ⊆ docs,
        ∃ ys : List Value, sortByAll es docs' = .ok ys ∧ StableOrder rank docs' ys := by
  induction es with
  | nil =>
    refine ⟨Unit, inferInstance, fun _ => (), fun _ _ _ _ => (cmp_self_eq_eq _).symm,
      fun docs' _ => ⟨docs', rfl, .refl ?_⟩⟩
    exact List.pairwise_of_forall fun _ _ => le_rfl
  | cons e es ih =>
    obtain ⟨κ, _, rank, hcompare, hpasses⟩ := ih fun e' he => h e' (List.mem_cons_of_mem e he)
    obtain ⟨κ', _, rank', hcompare', hsort⟩ := sortBy_eq e.2 (h e List.mem_cons_self)
    refine ⟨κ' ×ₗ κ, inferInstance, fun d => toLex (rank' d, rank d), fun d hd d' hd' => ?_,
      fun docs' hs => ?_⟩
    · have down : ((if isDescending e.2 then -1 else 1 : Int) == -1) = isDescending e.2 := by
        cases isDescending e.2 <;> rfl
      rw [keysOf, List.map_cons, compareAll, down, hcompare' d hd d' hd', cmp_toLex,
        ← hcompare d hd d' hd']
      rfl
    · obtain ⟨ys, hys, hst⟩ := hpasses docs' hs
      obtain ⟨zs, hzs, hst'⟩ := hsort ys fun d hd => hs (hst.perm.subset hd)
      refine ⟨zs, ?_, hst.lex hst'⟩
      rw [sortByAll, hys]
      exact hzs

/-- A pass over the documents that commutes with leaving some of them out. -/
def KeepsFilters (sorting : List Value → Except Failure (List Value)) (docs ys : List Value) : Prop :=
  ys.Perm docs ∧ ∀ p : Value → Bool, sorting (docs.filter p) = .ok (ys.filter p)

theorem sortByAll_filter {es : Entries} {docs : List Value}
    (h : ∀ e ∈ es, ComparableBy e.1 docs) : ∃ ys : List Value, KeepsFilters (sortByAll es) docs ys := by
  obtain ⟨κ, _, rank, -, hsort⟩ := sortByAll_eq h
  obtain ⟨ys, -, hst⟩ := hsort docs (List.Subset.refl docs)
  refine ⟨ys, hst.perm, fun p => ?_⟩
  obtain ⟨zs, hzs, hst'⟩ := hsort (docs.filter p) (List.filter_subset_self docs)
  rw [hzs, hst'.unique (hst.filter p)]

/-- The documents can be sorted once for all: any part of them is sorted the same way. -/
theorem sortDocuments_filter {sort : Value} {docs : List Value} (h : Sortable sort docs)
    (hs : sort.truthy = true → sort.isMapping = true) :
    ∃ ys : List Value, KeepsFilters (sortDocuments sort) docs ys := by
  cases ht : sort.truthy with
  | false => exact ⟨docs, .refl docs, fun p => by rw [sortDocuments, ht]; simp⟩
  | true =>
    obtain ⟨es, hes⟩ := Option.isSome_iff_exists.mp (hs ht)
    obtain ⟨ys, hp, hys⟩ := sortByAll_filter (h es hes)
    refine ⟨ys, hp, fun p => ?_⟩
    cases hd : docs.filter p with
    | nil =>
      have hnil : ys.filter p = [] := by
        have := hp.filter p
        rw [hd] at this
        exact this.eq_nil
      rw [hnil]
      rfl
    | cons d ds => rw [sortDocuments, ht, hes, ← hys p, hd]; rfl

/-! ### Fetching -/

theorem select_eq {filter : Value} {p : Value → Bool} {docs : List Value}
    (h : ∀ d ∈ docs, Query.matchesFilter d filter = .ok (p d)) :
    select filter docs = .ok (docs.filter p) := by
  induction docs with
  | nil => rfl
  | cons d ds ih =>
    rw [select, h d (by simp), ih fun d' hd => h d' (by simp [hd]), List.filter_cons]
    cases p d <;> rfl

/-- A fetch selects from the collection of the context, and then sorts. -/
theorem fetchMany_addressed {s : Store} {c : Context} (ha : s.Addresses c) (filter : Value) :
    s.fetchMany c filter = select filter (s.addressed c) >>= sortDocuments c.sort := by
  rw [fetchMany, ha.1, ha.2]
  simp only [Bool.and_self, Bool.not_true, Bool.false_eq_true, if_false]
  rfl

/-- Every fetch in a context takes its documents from one sorted list. -/
theorem fetchMany_filter {s : Store} {c : Context} (ha : s.Addresses c)
    (h : Sortable c.sort (s.addressed c)) (hs : c.sort.truthy = true → c.sort.isMapping = true) :
    ∃ ys : List Value, ys.Perm (s.addressed c) ∧ ∀ (filter : Value) (p : Value → Bool),
      (∀ d ∈ s.addressed c, Query.matchesFilter d filter = .ok (p d)) →
      s.fetchMany c filter = .ok (ys.filter p) := by
  obtain ⟨ys, hp, hys⟩ := sortDocuments_filter h hs
  refine ⟨ys, hp, fun filter p hm => ?_⟩
  rw [fetchMany_addressed ha, select_eq hm]
  exact hys p

end LinkedDocs.Store
