import LinkedDocs.Proofs.PlainFilter
import LinkedDocs.Proofs.StoreOrder
import LinkedDocs.Reference.Resolving

/-! A list of references is read in its own order.

    A store is asked once for the documents of all references, in an order that is its own. Where no
    document belongs to two references, the documents come back reference by reference, each part
    exactly as the store would have answered for that reference alone. Sorting by branches groups
    the documents, and within a group leaves the order of the store as it is. -/

namespace LinkedDocs

open Query (IsPlain HoldsNoList Matches matches_iff_covers matchesFilter_plain matchesFilter_anyOf
  not_isPlain_anyOf)
open Sorting (StableOrder ofRank ofRank_append ofRank_eq_nil ofRank_filter_congr)

namespace BranchOrder

/-! ### Branches that exclude each other -/

theorem lacks_of_covers_none {branches : List Value} {d : Value}
    (h : ∀ b ∈ branches, covers d b = false) :
    lacks branches d = List.replicate branches.length true := by
  rw [lacks, List.eq_replicate_iff]
  refine ⟨List.length_map _, fun x hx => ?_⟩
  obtain ⟨b, hb, rfl⟩ := List.mem_map.mp hx
  rw [h b hb]
  rfl

theorem strictMono_cons (x : Bool) : StrictMono (fun v : List Bool => x :: v) :=
  fun _ _ h => List.cons_lt_cons_iff.mpr (.inr ⟨rfl, h⟩)

/-- The documents of each branch in turn are the stable order of the documents that have any. -/
theorem stableOrder_flatMap {branches docs : List Value}
    (hone : ∀ d ∈ docs, branches.Pairwise fun a b => ¬ (covers d a = true ∧ covers d b = true)) :
    StableOrder (lacks branches) (docs.filter fun d => branches.any (covers d))
      (branches.flatMap fun b => docs.filter fun d => covers d b) := by
  induction branches with
  | nil =>
    have hnil : (docs.filter fun d => List.any [] (covers d)) = [] := by simp
    rw [hnil]
    exact .refl .nil
  | cons b bs ih =>
    have hnone : ∀ d ∈ docs, covers d b = true → ∀ c ∈ bs, covers d c = false := by
      intro d hd hb c hc
      have hnot := List.rel_of_pairwise_cons (hone d hd) hc
      simpa [hb] using hnot
    have hrest : ∀ d ∈ docs.filter (fun d => bs.any (covers d)), covers d b = false := by
      intro d hd
      obtain ⟨hmem, hany⟩ := List.mem_filter.mp hd
      obtain ⟨c, hc, hcov⟩ := List.any_eq_true.mp hany
      rw [Bool.eq_false_iff]
      intro hb
      rw [hnone d hmem hb c hc] at hcov
      contradiction
    have hgroup : StableOrder (lacks (b :: bs)) (docs.filter fun d => covers d b)
        (docs.filter fun d => covers d b) := by
      refine .refl (List.pairwise_of_forall_mem_list fun d hd d' hd' => ?_)
      obtain ⟨hmem, hb⟩ := List.mem_filter.mp hd
      obtain ⟨hmem', hb'⟩ := List.mem_filter.mp hd'
      rw [lacks_cons, lacks_cons, hb, hb', lacks_of_covers_none (hnone d hmem hb),
        lacks_of_covers_none (hnone d' hmem' hb')]
    have htail : StableOrder (lacks (b :: bs)) (docs.filter fun d => bs.any (covers d))
        (bs.flatMap fun b => docs.filter fun d => covers d b) := by
      refine (ih fun d hd => (hone d hd).tail).rerank (strictMono_cons true) fun d hd => ?_
      rw [lacks_cons, hrest d hd]
      rfl
    rw [List.flatMap_cons]
    refine (hgroup.append htail ?_).congr fun k => ?_
    · intro d hd d' hd'
      rw [lacks_cons, lacks_cons, (List.mem_filter.mp hd).2, hrest d' hd']
      exact (List.cons_lt_cons_iff.mpr (.inl (by decide))).le
    · -- documents of one rank either all have the first branch or all lack it
      have hhead : (∀ d, lacks (b :: bs) d = k → covers d b = true) ∨
          (∀ d, lacks (b :: bs) d = k → covers d b = false) := by
        match k with
        | [] => exact .inl fun d hd => nomatch hd
        | true :: k => exact .inr fun d hd => by simpa using (List.cons.inj hd).1
        | false :: k => exact .inl fun d hd => by simpa using (List.cons.inj hd).1
      rw [ofRank_append]
      rcases hhead with hhas | hlacks
      · have hnil : ofRank (lacks (b :: bs)) k (docs.filter fun d => bs.any (covers d)) = [] := by
          refine ofRank_eq_nil fun d hd hk => ?_
          have hcov := hhas d hk
          rw [hrest d hd] at hcov
          contradiction
        rw [hnil, List.append_nil]
        refine ofRank_filter_congr fun d _ hk => ?_
        rw [List.any_cons, hhas d hk, Bool.true_or]
      · have hnil : ofRank (lacks (b :: bs)) k (docs.filter fun d => covers d b) = [] := by
          refine ofRank_eq_nil fun d hd hk => ?_
          have hcov := hlacks d hk
          rw [(List.mem_filter.mp hd).2] at hcov
          contradiction
        rw [hnil, List.nil_append]
        refine ofRank_filter_congr fun d _ hk => ?_
        rw [List.any_cons, hlacks d hk, Bool.false_or]

/-! ### One fetch for all references -/

/-- The documents that a context means in a store can be sorted, and each belongs to at most one of
    the filters: the filters are plain, and none of their keys leads to a list. -/
structure TellsApart (s : Store) (c : Context) (bs : List Value) : Prop where
  addresses : s.Addresses c
  sortable : Store.Sortable c.sort (s.addressed c)
  isMapping : ∀ d ∈ s.addressed c, d.isMapping = true
  isPlain : ∀ b ∈ bs, IsPlain b
  holdsNoList : ∀ d ∈ s.addressed c, ∀ b ∈ bs, HoldsNoList d b
  exclusive : ∀ d ∈ s.addressed c, bs.Pairwise fun a b => ¬ (Matches d a ∧ Matches d b)

/-- What a store finds for an alternative of exclusive filters, once restored, is what it finds for
    each of the filters, one after the other. -/
theorem restore_fetched {s : Store} {c : Context} {bs : List Value} (h : TellsApart s c bs)
    (hs : c.sort.truthy = true → c.sort.isMapping = true) :
    ∃ rs docs, List.Forall₂ (fun b r => s.fetchMany c b = .ok r) bs rs ∧
      s.fetchMany c (anyOf bs) = .ok docs ∧ docs.Perm rs.flatten ∧
      restore bs docs = .ok rs.flatten := by
  obtain ⟨ha, hsort, hdocs, hplain, hlist, hone⟩ := h
  obtain ⟨ys, hp, hys⟩ := Store.fetchMany_filter ha hsort hs
  have hmem : ∀ d ∈ ys, d ∈ s.addressed c := fun d hd => hp.mem_iff.mp hd
  have hcovers : ∀ d ∈ ys, bs.Pairwise fun a b => ¬ (covers d a = true ∧ covers d b = true) := by
    intro d hd
    have hd' := hmem d hd
    refine (hone d hd').imp_of_mem fun {a b} ha hb hnot hboth => hnot ?_
    rw [matches_iff_covers (hdocs d hd') (hplain a ha) (hlist d hd' a ha),
      matches_iff_covers (hdocs d hd') (hplain b hb) (hlist d hd' b hb)]
    exact hboth
  have hgroups := stableOrder_flatMap hcovers
  rw [List.flatMap_def] at hgroups
  refine ⟨bs.map fun b => ys.filter fun d => covers d b, ys.filter fun d => bs.any (covers d),
    ?_, ?_, hgroups.perm.symm, ?_⟩
  · rw [List.forall₂_map_right_iff, List.forall₂_same]
    intro b hb
    exact hys b _ fun d hd => matchesFilter_plain (hdocs d hd) (hplain b hb) (hlist d hd b hb)
  · exact hys _ _ fun d hd =>
      matchesFilter_anyOf (hdocs d hd) fun b hb => ⟨hplain b hb, hlist d hd b hb⟩
  · have hbranches : ∀ b ∈ bs, IsDocument b := fun b hb => (hplain b hb).isDocument
    have hfound : ∀ d ∈ ys.filter (fun d => bs.any (covers d)), d.isMapping = true :=
      fun d hd => hdocs d (hmem d (List.mem_of_mem_filter hd))
    obtain ⟨zs, hzs, hst⟩ := restore_eq hbranches hfound
    rw [hzs, hst.unique hgroups]

end BranchOrder

/-! ### From the reference values to the documents -/

namespace Property

variable {p : Property} {l : Lookup} {value : Value} {xs bs : List Value} {c : Context}

/-- A reference that is no list is decoded by itself. -/
theorem filter_eq_branch (hl : p.link = .lookup l) (hv : value.sequence? = none) :
    p.filter value = p.branch l value := by
  rw [filter, isTemplated, hl, lookupFilter, requiredLookup, hl, hv]
  simp only [if_true, ite_self, bind, Except.bind]

/-- Several references are looked up by an alternative of their filters. -/
theorem filter_eq_anyOf (hl : p.link = .lookup l) (hm : p.isMulti = true)
    (hv : value.sequence? = some xs) :
    p.filter value = (p.branches l xs).map anyOf := by
  rw [filter, isTemplated, hl, lookupFilter, requiredLookup, hl, hm, hv]
  simp only [if_true, bind, Except.bind]
  cases p.branches l xs <;> rfl

/-- The references of a list are decoded one by one, each as it would be alone. -/
theorem branches_eq (hl : p.link = .lookup l) (hm : p.isMulti = true)
    (hf : List.Forall₂ (fun x b => p.filter x = .ok b) xs bs) (hplain : ∀ b ∈ bs, IsPlain b) :
    p.branches l xs = .ok bs := by
  induction hf with
  | nil => rfl
  | @cons x b xs bs hb _ ih =>
    have hsingle : p.branch l x = .ok b := by
      cases hx : x.sequence? with
      | none => rw [← filter_eq_branch hl hx, hb]
      | some ys =>
        -- the filter of a nested list is an alternative, which is not plain
        rw [filter_eq_anyOf hl hm hx] at hb
        cases hys : p.branches l ys with
        | error e =>
          rw [hys] at hb
          contradiction
        | ok cs =>
          rw [hys] at hb
          obtain rfl := Except.ok.inj hb
          exact absurd (hplain _ (by simp)) (not_isPlain_anyOf cs)
    rw [branches, hsingle, ih fun b hb => hplain b (by simp [hb])]
    rfl

theorem arrange_anyOf (hl : p.link = .lookup l) (hv : value.sequence? = some xs)
    (docs : List Value) : p.arrange value (anyOf bs) docs = BranchOrder.restore bs docs := by
  rw [arrange, isTemplated, hl, hv]
  rfl

/-- The sort order of a context that has passed its check is a mapping, if there is any. -/
theorem checkedContext_sort {database collection sort : Value}
    (h : checkedContext l database collection sort = .ok c) :
    c.sort.truthy = true → c.sort.isMapping = true := by
  unfold checkedContext at h
  split at h
  · contradiction
  split at h
  · contradiction
  split at h
  · contradiction
  obtain rfl := Except.ok.inj h
  cases hs : sort.entries? with
  | none => simp [Value.truthy]
  | some es =>
    cases es with
    | nil => simp [Value.truthy]
    | cons e es => exact fun _ => rfl

/-- So is that of every lookup. -/
theorem context_sort (hl : p.link = .lookup l) (h : p.context value = .ok c) :
    c.sort.truthy = true → c.sort.isMapping = true := by
  have hsingle : ∀ v, p.singleContext v = .ok c → c.sort.truthy = true → c.sort.isMapping = true := by
    intro v hv
    rw [singleContext, hl] at hv
    simp only [Run.outcome, lookupContext, Run.exec_bind] at hv
    split at hv
    · split at hv
      · split at hv
        · exact checkedContext_sort hv
        · contradiction
      · contradiction
    · contradiction
  unfold context at h
  split at h
  · exact hsingle _ h
  · obtain rfl := Except.ok.inj h
    simp [Value.truthy]
  · exact hsingle _ h

end Property

/-! ### Resolving -/

/-- A converter that does not fail converts all documents. -/
theorem Property.convertAll_ok {σ : Type} {convert : Converter σ}
    (h : ∀ d w, ∃ v w', (convert d).exec w = (.ok v, w')) (docs : List Value) (w : σ) :
    ∃ vs w', (Property.convertAll convert docs).exec w = (.ok vs, w') := by
  induction docs generalizing w with
  | nil => exact ⟨[], w, rfl⟩
  | cons d ds ih =>
    obtain ⟨v, w', hv⟩ := h d w
    obtain ⟨vs, w'', hvs⟩ := ih w'
    refine ⟨v :: vs, w'', ?_⟩
    simp only [Property.convertAll, Run.exec_bind, hv, hvs, Run.exec_pure]

/-- A list of references resolves to the documents of the first reference, then those of the second
    and so on, each part as the store finds it for that reference alone. These are the documents
    that one fetch for all references finds, each as often as it is found there. -/
theorem Pool.resolve_in_reference_order {σ : Type} {p : Property} {l : Lookup} {value : Value}
    {xs bs : List Value} {c : Context} (store : σ → Store) (convert : Converter σ) (pool : Pool σ)
    (hl : p.link = .lookup l) (heager : l.isLazy = false) (hm : p.isMulti = true)
    (hv : value.sequence? = some xs) (hne : xs ≠ [])
    (hf : List.Forall₂ (fun x b => p.filter x = .ok b) xs bs) (hc : p.context value = .ok c)
    (hapart : BranchOrder.TellsApart (store pool.world) c bs)
    (hconvert : ∀ d w, ∃ v w', (convert d).exec w = (.ok v, w')) :
    ∃ rs docs vs w,
      List.Forall₂ (fun b r => (store pool.world).fetchMany c b = .ok r) bs rs ∧
      (store pool.world).fetchMany c (anyOf bs) = .ok docs ∧ docs.Perm rs.flatten ∧
      (Property.convertAll convert rs.flatten).exec pool.world = (.ok vs, w) ∧
      (Pool.resolve p value (Loader.ofStore store) convert).exec pool =
        (.ok (.list vs), { pool with world := w }) := by
  obtain ⟨rs, docs, hrs, hdocs, hp, hrestore⟩ :=
    BranchOrder.restore_fetched hapart (Property.context_sort hl hc)
  obtain ⟨vs, w, hvs⟩ := Property.convertAll_ok hconvert rs.flatten pool.world
  refine ⟨rs, docs, vs, w, hrs, hdocs, hp, hvs, ?_⟩
  have hvacant : p.isVacant value = false := by
    rw [Property.isVacant, hm, hv]
    cases xs with
    | nil => contradiction
    | cons x xs => rfl
  have hlazy : p.isLazy = false := by
    rw [Property.isLazy, hl]
    exact heager
  have hfilter : p.filter value = .ok (anyOf bs) := by
    rw [Property.filter_eq_anyOf hl hm hv, Property.branches_eq hl hm hf hapart.isPlain]
    rfl
  have hload : (p.load value (Loader.ofStore store) convert).exec pool.world =
      (.ok (.list vs), w) := by
    rw [Property.load, Property.read, hvacant]
    simp only [Bool.false_eq_true, if_false, Run.exec_bind, Run.exec_lift, hfilter, hc,
      Property.lookupFunction, hm, Bool.true_or, if_true, Loader.ofStore, Run.exec_of, hdocs,
      Property.collect, Property.arrange_anyOf hl hv, hrestore, Run.value, Except.mapError, hvs,
      Run.exec_pure]
  rw [Pool.resolve, hlazy]
  simp only [Bool.false_eq_true, if_false, Pool.onWorld, Run.exec_of, hload]

namespace Shelf

/-- Books that are looked up by their key and sorted by their year, the latest first. -/
def bookLookup : Lookup :=
  { template := "\x7b 'key' : ?0 \x7d"
    database := ""
    collection := ""
    sort := "\x7b 'year' : -1 \x7d"
    isLazy := false }

def books : Property :=
  { name := "books"
    field := "books"
    target := .mapping none
    collection := "book"
    isMulti := true
    isMap := false
    link := .lookup bookLookup }

def book (key year : Int) : Value := .map [(.text "key", .int key), (.text "year", .int year)]

def shelf : Store :=
  ⟨.text "library", .null,
    [⟨.text "library", .text "book", book 2 1999⟩, ⟨.text "library", .text "book", book 1 1987⟩,
      ⟨.text "library", .text "book", book 1 2003⟩, ⟨.text "library", .text "book", book 3 2001⟩]⟩

def byKey (key : Int) : Value := .map [(.text "key", .int key)]

def byYear : Context := ⟨.null, .text "book", .map [(.text "year", .int (-1))]⟩

theorem filter_books (key : Int) : books.filter (.int key) = .ok (byKey key) := by
  have hparse : Template.parse bookLookup.template =
      .ok (.document [(.string "key", .placeholder 0)]) := by with_unfolding_all rfl
  rw [Property.filter_eq_branch (l := bookLookup) rfl rfl, Property.branch, Binding.decode]
  simp only [Binding.decodeValue, Run.outcome, Run.exec_bind, hparse, Run.exec_lift]
  with_unfolding_all rfl

theorem context_books : books.context (.list [.int 1, .int 2]) = .ok byYear := by
  have hlink : books.link = .lookup bookLookup := rfl
  have hdatabase : (Text.trim bookLookup.database.toList).isEmpty = true := by
    with_unfolding_all rfl
  have hcollection : (Text.trim bookLookup.collection.toList).isEmpty = true := by
    with_unfolding_all rfl
  have hsort : (Text.trim bookLookup.sort.toList).isEmpty = false := by with_unfolding_all rfl
  have htemplate : Property.isValueTemplate bookLookup.sort = true := by with_unfolding_all rfl
  have hparse : Template.parse bookLookup.sort =
      .ok (.document [(.string "year", .value (.int (-1)))]) := by with_unfolding_all rfl
  simp only [Property.context, Value.sequence?, Property.singleContext, hlink,
    Property.lookupContext, Property.setting, hdatabase, hcollection, hsort, htemplate,
    Run.outcome, Run.exec_bind, if_true, Run.exec_pure, Bool.false_eq_true, if_false,
    Binding.decodeValue, hparse, Run.exec_lift]
  with_unfolding_all rfl

theorem isPlain_byKey (key : Int) : IsPlain (byKey key) := by
  refine ⟨[(.text "key", .int key)], rfl, fun e he => ?_⟩
  obtain rfl := List.mem_singleton.mp he
  refine ⟨⟨rfl, rfl, ?_⟩, rfl, fun _ _ _ => nofun, rfl⟩
  show '.' ∉ "key".toList
  decide

theorem covers_book (key year k : Int) : BranchOrder.covers (book key year) (byKey k) = (key == k) :=
  Bool.and_true _

theorem tellsApart_shelf : BranchOrder.TellsApart shelf byYear [byKey 1, byKey 2] := by
  have haddressed : shelf.addressed byYear = [book 2 1999, book 1 1987, book 1 2003, book 3 2001] := by
    with_unfolding_all rfl
  have hbook : ∀ d ∈ shelf.addressed byYear, ∃ key year, d = book key year := by
    rw [haddressed]
    simp only [List.forall_mem_cons, List.not_mem_nil, false_implies, implies_true, and_true]
    exact ⟨⟨_, _, rfl⟩, ⟨_, _, rfl⟩, ⟨_, _, rfl⟩, ⟨_, _, rfl⟩⟩
  have hlist : ∀ d ∈ shelf.addressed byYear, ∀ k, Query.HoldsNoList d (byKey k) := by
    intro d hd k e he xs
    obtain ⟨key, year, rfl⟩ := hbook d hd
    obtain rfl := List.mem_singleton.mp he
    exact nofun
  refine ⟨⟨rfl, rfl⟩, ?_, ?_, ?_, ?_, ?_⟩
  · intro es hes e he
    obtain rfl := Option.some.inj hes
    obtain rfl := List.mem_singleton.mp he
    refine Store.comparableBy_int fun d hd => ?_
    obtain ⟨key, year, rfl⟩ := hbook d hd
    exact ⟨some year, rfl⟩
  · intro d hd
    obtain ⟨key, year, rfl⟩ := hbook d hd
    rfl
  · simp only [List.forall_mem_cons, List.not_mem_nil, false_implies, implies_true, and_true]
    exact ⟨isPlain_byKey 1, isPlain_byKey 2⟩
  · intro d hd b hb
    rcases List.mem_pair.mp hb with rfl | rfl <;> exact hlist d hd _
  · intro d hd
    rw [List.pairwise_pair, matches_iff_covers ?_ (isPlain_byKey 1) (hlist d hd 1),
      matches_iff_covers ?_ (isPlain_byKey 2) (hlist d hd 2)]
    · obtain ⟨key, year, rfl⟩ := hbook d hd
      rw [covers_book, covers_book]
      simp only [beq_iff_eq]
      omega
    all_goals
      obtain ⟨key, year, rfl⟩ := hbook d hd
      rfl

/-- Both books of the first key come first, the later one before the earlier one, though the book of
    the second key was put on the shelf before them. -/
theorem resolve_books :
    BranchOrder.TellsApart shelf byYear [byKey 1, byKey 2] ∧
      (Pool.resolve books (.list [.int 1, .int 2]) (Loader.ofStore id) pure).exec ⟨[], shelf⟩ =
        (.ok (.list [book 1 2003, book 1 1987, book 2 1999]), ⟨[], shelf⟩) := by
  refine ⟨tellsApart_shelf, ?_⟩
  have hf : List.Forall₂ (fun x b => books.filter x = .ok b) [.int 1, .int 2] [byKey 1, byKey 2] :=
    .cons (filter_books 1) (.cons (filter_books 2) .nil)
  obtain ⟨rs, docs, vs, w, hrs, -, -, hvs, hresolve⟩ :=
    Pool.resolve_in_reference_order id pure ⟨[], shelf⟩ (p := books) (l := bookLookup) rfl rfl rfl
      rfl (by simp) hf context_books tellsApart_shelf fun d w => ⟨d, w, rfl⟩
  have hfirst : shelf.fetchMany byYear (byKey 1) = .ok [book 1 2003, book 1 1987] := by
    with_unfolding_all rfl
  have hsecond : shelf.fetchMany byYear (byKey 2) = .ok [book 2 1999] := by
    with_unfolding_all rfl
  obtain ⟨r, rs', hr, hrs', rfl⟩ := List.forall₂_cons_left_iff.mp hrs
  obtain ⟨r', rs'', hr', hnil, rfl⟩ := List.forall₂_cons_left_iff.mp hrs'
  obtain rfl := List.forall₂_nil_left_iff.mp hnil
  obtain rfl := Except.ok.inj (hr.symm.trans hfirst)
  obtain rfl := Except.ok.inj (hr'.symm.trans hsecond)
  have hconverted : (Except.ok vs, w) =
      (.ok [book 1 2003, book 1 1987, book 2 1999], shelf) := hvs.symm
  obtain ⟨hok, rfl⟩ := Prod.mk.inj hconverted
  obtain rfl := Except.ok.inj hok
  exact hresolve

end Shelf

end LinkedDocs
