import LinkedDocs.Sorting
import Mathlib

/-! Sorting by rank is stable.

    Every item has a rank, and the order asked while sorting is that of the ranks. The sorted list
    is then the *stable order* of the list: ranks never fall, and the items of one rank stand as
    they arrived. A list has only one stable order, so which comparisons were made no longer
    matters. The argument follows the sort: the first run is in stable order, and inserting by
    halves puts an item behind all items of its rank. -/

namespace LinkedDocs.Sorting

variable {α κ : Type} [LinearOrder κ] {rank : α → κ}

/-- The items of one rank, as they stand. -/
def ofRank (rank : α → κ) (k : κ) (xs : List α) : List α := xs.filter fun a => rank a = k

theorem mem_ofRank {k : κ} {xs : List α} {a : α} :
    a ∈ ofRank rank k xs ↔ a ∈ xs ∧ rank a = k := by
  rw [ofRank, List.mem_filter, decide_eq_true_eq]

theorem ofRank_append (k : κ) (xs ys : List α) :
    ofRank rank k (xs ++ ys) = ofRank rank k xs ++ ofRank rank k ys :=
  List.filter_append ..

theorem ofRank_cons (k : κ) (a : α) (xs : List α) :
    ofRank rank k (a :: xs) = if rank a = k then a :: ofRank rank k xs else ofRank rank k xs := by
  rw [ofRank, List.filter_cons]
  simp only [decide_eq_true_eq, ofRank]

theorem ofRank_eq_nil {k : κ} {xs : List α} (h : ∀ a ∈ xs, rank a ≠ k) : ofRank rank k xs = [] := by
  rw [List.eq_nil_iff_forall_not_mem]
  intro a ha
  obtain ⟨hmem, hk⟩ := mem_ofRank.mp ha
  exact h a hmem hk

theorem ofRank_filter (k : κ) (p : α → Bool) (xs : List α) :
    ofRank rank k (xs.filter p) = (ofRank rank k xs).filter p :=
  List.filter_comm ..

/-- Within one rank, only what is asked of its items matters. -/
theorem ofRank_filter_congr {k : κ} {p q : α → Bool} {xs : List α}
    (h : ∀ a ∈ xs, rank a = k → p a = q a) :
    ofRank rank k (xs.filter p) = ofRank rank k (xs.filter q) := by
  rw [ofRank_filter, ofRank_filter]
  refine List.filter_congr fun a ha => ?_
  obtain ⟨hmem, hk⟩ := mem_ofRank.mp ha
  exact h a hmem hk

/-- `ys` holds the items of `xs` by ascending rank, items of one rank as they arrived. -/
structure StableOrder (rank : α → κ) (xs ys : List α) : Prop where
  ascending : ys.Pairwise (fun a b => rank a ≤ rank b)
  arrival : ∀ k, ofRank rank k ys = ofRank rank k xs

namespace StableOrder

theorem perm {xs ys : List α} (h : StableOrder rank xs ys) : ys.Perm xs := by
  classical
  rw [List.perm_iff_count]
  intro a
  have count_rank : ∀ zs : List α, zs.count a = (ofRank rank (rank a) zs).count a := by
    intro zs
    rw [ofRank, List.count_filter (by simp)]
  rw [count_rank ys, count_rank xs, h.arrival]

theorem mem_iff {xs ys : List α} (h : StableOrder rank xs ys) {a : α} : a ∈ ys ↔ a ∈ xs :=
  h.perm.mem_iff

theorem refl {xs : List α} (h : xs.Pairwise (fun a b => rank a ≤ rank b)) :
    StableOrder rank xs xs :=
  ⟨h, fun _ => rfl⟩

/-- Only what arrived within each rank matters of the list that was sorted. -/
theorem congr {xs xs' ys : List α} (hx : ∀ k, ofRank rank k xs' = ofRank rank k xs)
    (h : StableOrder rank xs ys) : StableOrder rank xs' ys :=
  ⟨h.ascending, fun k => by rw [h.arrival, hx]⟩

/-- Leaving items out before or after sorting is the same. -/
theorem filter {xs ys : List α} (p : α → Bool) (h : StableOrder rank xs ys) :
    StableOrder rank (xs.filter p) (ys.filter p) := by
  refine ⟨h.ascending.filter p, fun k => ?_⟩
  rw [ofRank_filter, h.arrival k, ofRank_filter]

/-- The head of a stable order has the least rank. -/
theorem rank_head_le {a : α} {xs ys : List α} (h : StableOrder rank xs (a :: ys)) :
    ∀ b ∈ xs, rank a ≤ rank b := by
  intro b hb
  rcases List.mem_cons.mp (h.mem_iff.mpr hb) with rfl | hb
  · exact le_rfl
  · exact List.rel_of_pairwise_cons h.ascending hb

/-- A list has one stable order. -/
theorem unique {xs ys zs : List α} (hy : StableOrder rank xs ys) (hz : StableOrder rank xs zs) :
    ys = zs := by
  induction ys generalizing xs zs with
  | nil => exact (hz.perm.trans hy.perm.symm).eq_nil.symm
  | cons a ys ih =>
    cases zs with
    | nil => exact absurd (hy.perm.trans hz.perm.symm).eq_nil (by simp)
    | cons b zs =>
      have hab : rank a = rank b := le_antisymm
        (hy.rank_head_le b (hz.mem_iff.mp (by simp)))
        (hz.rank_head_le a (hy.mem_iff.mp (by simp)))
      have hk := (hy.arrival (rank a)).trans (hz.arrival (rank a)).symm
      rw [ofRank_cons, if_pos rfl, ofRank_cons, if_pos hab.symm] at hk
      obtain ⟨rfl, -⟩ := List.cons.inj hk
      have htail : StableOrder rank ys zs := by
        refine ⟨hz.ascending.tail, fun k => ?_⟩
        have hk := (hy.arrival k).trans (hz.arrival k).symm
        rw [ofRank_cons, ofRank_cons] at hk
        split at hk
        · exact (List.cons.inj hk).2.symm
        · exact hk.symm
      rw [ih (.refl hy.ascending.tail) htail]

/-- Where no two items have one rank, the order of arrival does not matter. -/
theorem of_perm {xs xs' ys : List α} (hp : xs'.Perm xs)
    (hd : xs.Pairwise (fun a b => rank a ≠ rank b)) (h : StableOrder rank xs ys) :
    StableOrder rank xs' ys := by
  refine h.congr fun k => ?_
  -- a rank belongs to one item at most, and a list of one item has one order only
  have hpf : (ofRank rank k xs').Perm (ofRank rank k xs) := hp.filter _
  match hf : ofRank rank k xs with
  | [] => rw [hf] at hpf; exact hpf.eq_nil
  | [a] => rw [hf] at hpf; exact List.perm_singleton.mp hpf
  | a :: b :: rest =>
    have hrank : ∀ c ∈ a :: b :: rest, rank c = k := by
      intro c hc
      rw [← hf] at hc
      exact (mem_ofRank.mp hc).2
    have hne : (ofRank rank k xs).Pairwise (fun a b => rank a ≠ rank b) := hd.filter _
    rw [hf] at hne
    exact absurd ((hrank a (by simp)).trans (hrank b (by simp)).symm)
      (List.rel_of_pairwise_cons hne (by simp))

/-- Items that are behind all the others are sorted by themselves. -/
theorem append {xs xs' ys ys' : List α} (h : StableOrder rank xs ys) (h' : StableOrder rank xs' ys')
    (hle : ∀ a ∈ xs, ∀ b ∈ xs', rank a ≤ rank b) : StableOrder rank (xs ++ xs') (ys ++ ys') := by
  refine ⟨List.pairwise_append.mpr ⟨h.ascending, h'.ascending, ?_⟩, fun k => ?_⟩
  · intro a ha b hb
    exact hle a (h.mem_iff.mp ha) b (h'.mem_iff.mp hb)
  · rw [ofRank_append, ofRank_append, h.arrival, h'.arrival]

/-- An item that is before all of a sorted rest goes before it, although it came last. -/
theorem insert_before {x : α} {xs ys rest : List α} (h : StableOrder rank (xs ++ [x]) ys)
    (hrest : rest.Pairwise (fun a b => rank a ≤ rank b)) (hx : ∀ b ∈ rest, rank x < rank b)
    (hle : ∀ a ∈ xs, ∀ b ∈ rest, rank a ≤ rank b) :
    StableOrder rank (xs ++ rest ++ [x]) (ys ++ rest) := by
  refine (h.append (.refl hrest) ?_).congr fun k => ?_
  · intro a ha b hb
    rcases List.mem_append.mp ha with ha | ha
    · exact hle a ha b hb
    · rw [List.mem_singleton.mp ha]; exact (hx b hb).le
  · rw [ofRank_append, ofRank_append, ofRank_append, ofRank_append]
    by_cases hk : rank x = k
    · have hnil : ofRank rank k rest = [] := ofRank_eq_nil fun b hb => hk ▸ (hx b hb).ne'
      rw [hnil, List.append_nil, List.append_nil]
    · have hnil : ofRank rank k [x] = [] := by rw [ofRank_cons, if_neg hk]; rfl
      rw [hnil, List.append_nil, List.append_nil]

/-- Ranks may be renamed as long as their order stays. -/
theorem rerank {κ' : Type} [LinearOrder κ'] {rank' : α → κ'} {f : κ → κ'} (hf : StrictMono f)
    {xs ys : List α} (hr : ∀ a ∈ xs, rank' a = f (rank a)) (h : StableOrder rank xs ys) :
    StableOrder rank' xs ys := by
  have hr' : ∀ a ∈ ys, rank' a = f (rank a) := fun a ha => hr a (h.mem_iff.mp ha)
  refine ⟨h.ascending.imp_of_mem fun {a b} ha hb hab => ?_, fun k => ?_⟩
  · rw [hr' a ha, hr' b hb]
    exact hf.monotone hab
  · by_cases hk : ∃ j, f j = k
    · obtain ⟨j, rfl⟩ := hk
      have hsame : ∀ zs : List α, (∀ a ∈ zs, rank' a = f (rank a)) →
          ofRank rank' (f j) zs = ofRank rank j zs := by
        intro zs hz
        refine List.filter_congr fun a ha => ?_
        rw [hz a ha, decide_eq_decide, hf.injective.eq_iff]
      rw [hsame ys hr', hsame xs hr, h.arrival]
    · have hnil : ∀ zs : List α, (∀ a ∈ zs, rank' a = f (rank a)) → ofRank rank' k zs = [] :=
        fun zs hz => ofRank_eq_nil fun a ha heq => hk ⟨rank a, (hz a ha).symm.trans heq⟩
      rw [hnil ys hr', hnil xs hr]

/-- What sorts the images of items under a function that loses nothing sorts the items. -/
theorem unmap {β : Type} {f : β → α} {g : α → β} (hgf : Function.LeftInverse g f) {xs : List β}
    {ys : List α} (h : StableOrder rank (xs.map f) ys) :
    StableOrder (fun b => rank (f b)) xs (ys.map g) := by
  obtain ⟨zs, rfl⟩ : ∃ zs : List β, zs.map f = ys := by
    refine ⟨ys.map g, ?_⟩
    rw [List.map_map]
    refine (List.map_congr_left fun a ha => ?_).trans (List.map_id ys)
    obtain ⟨b, -, rfl⟩ := List.mem_map.mp (h.mem_iff.mp ha)
    exact congrArg f (hgf b)
  have hzs : (zs.map f).map g = zs := by
    rw [List.map_map, hgf.comp_eq_id, List.map_id]
  rw [hzs]
  have hasc := h.ascending
  rw [List.pairwise_map] at hasc
  refine ⟨hasc, fun k => ?_⟩
  have hk := h.arrival k
  rw [ofRank, ofRank, List.filter_map, List.filter_map] at hk
  exact List.map_injective_iff.mpr hgf.injective hk

/-- Sorting a sorted list once more, by another rank, gives the order in which the new rank decides
    first and the old one between items of one new rank. -/
theorem lex {κ' : Type} [LinearOrder κ'] {rank' : α → κ'} {xs ys zs : List α}
    (h : StableOrder rank xs ys) (h' : StableOrder rank' ys zs) :
    StableOrder (fun a => toLex (rank' a, rank a)) xs zs := by
  refine ⟨List.pairwise_iff_forall_sublist.mpr fun {a b} hab => ?_, fun k => ?_⟩
  · rw [Prod.Lex.toLex_le_toLex]
    have hle : rank' a ≤ rank' b := List.pairwise_iff_forall_sublist.mp h'.ascending hab
    rcases hle.lt_or_eq with hlt | heq
    · exact .inl hlt
    · refine .inr ⟨heq, ?_⟩
      -- two items of one new rank stand as they stood before the second pass
      have hwithin : [a, b].Sublist (ofRank rank' (rank' b) zs) := by
        simpa [ofRank, heq] using hab.filter fun c => decide (rank' c = rank' b)
      rw [h'.arrival] at hwithin
      exact List.pairwise_iff_forall_sublist.mp h.ascending (hwithin.trans List.filter_sublist)
  · have hboth : ∀ ws : List α, ofRank (fun a => toLex (rank' a, rank a)) k ws
        = ofRank rank' (ofLex k).1 (ofRank rank (ofLex k).2 ws) := by
      intro ws
      rw [ofRank, ofRank, ofRank, List.filter_filter]
      refine List.filter_congr fun a _ => ?_
      rw [← Bool.decide_and, decide_eq_decide]
      exact toLex.eq_symm_apply.symm.trans Prod.ext_iff
    rw [hboth, hboth, ← h.arrival]
    exact (List.filter_comm ..).trans ((congrArg (List.filter _) (h'.arrival _)).trans
      (List.filter_comm ..))

end StableOrder

/-! ### The sort -/

section

variable {m : Type → Type} [Monad m] [LawfulMonad m] {less : α → α → m Bool}

/-- Among the items of a list, the order that is asked is that of the ranks. -/
def RankedBy (less : α → α → m Bool) (rank : α → κ) (xs : List α) : Prop :=
  ∀ a ∈ xs, ∀ b ∈ xs, less a b = pure (decide (rank a < rank b))

omit [LawfulMonad m] in
theorem RankedBy.mono {xs ys : List α} (h : RankedBy less rank xs) (hs : ys ⊆ xs) :
    RankedBy less rank ys :=
  fun a ha b hb => h a (hs ha) b (hs hb)

/-- What goes on with a run is the front part of the items, each compared with the one before. -/
theorem extendRun_eq (falling : Bool) {last : α} {xs : List α}
    (h : RankedBy less rank (last :: xs)) :
    ∃ run rest, extendRun less falling last xs = pure (run, rest) ∧ run ++ rest = xs ∧
      (last :: run).IsChain (fun a b => decide (rank b < rank a) = falling) := by
  induction xs generalizing last with
  | nil => exact ⟨[], [], rfl, rfl, by simp⟩
  | cons x xs ih =>
    have hx := h x (by simp) last (by simp)
    rw [extendRun, hx, pure_bind]
    by_cases hc : decide (rank x < rank last) = falling
    · obtain ⟨run, rest, hrun, rfl, hchain⟩ := ih (h.mono (List.subset_cons_self last (x :: xs)))
      refine ⟨x :: run, rest, ?_, rfl, ?_⟩
      · rw [if_pos (by simpa using hc), hrun, pure_bind]
      · rw [List.isChain_cons_cons]
        exact ⟨hc, hchain⟩
    · exact ⟨[], x :: xs, by rw [if_neg (by simpa using hc)], rfl, by simp⟩

/-- A falling run turned round is in stable order: no two of its items have one rank. -/
theorem stableOrder_reverse {run : List α}
    (h : run.IsChain (fun a b => rank b < rank a)) : StableOrder rank run run.reverse := by
  have hp : run.Pairwise (fun a b => rank b < rank a) := by
    have : Trans (fun a b : α => rank b < rank a) (fun a b => rank b < rank a)
        (fun a b => rank b < rank a) := ⟨fun hab hbc => hbc.trans hab⟩
    exact List.isChain_iff_pairwise.mp h
  have hasc : run.reverse.Pairwise (fun a b => rank a ≤ rank b) :=
    List.pairwise_reverse.mpr (hp.imp fun hab => hab.le)
  refine .of_perm (List.reverse_perm run).symm ?_ (.refl hasc)
  exact List.pairwise_reverse.mpr (hp.imp fun hab => hab.ne)

theorem firstRun_eq {xs : List α} (h : RankedBy less rank xs) :
    ∃ run rest, firstRun less xs = pure (run, rest) ∧
      ∃ front, front ++ rest = xs ∧ StableOrder rank front run := by
  match xs with
  | [] => exact ⟨[], [], rfl, [], rfl, .refl .nil⟩
  | [x] => exact ⟨[x], [], rfl, [x], rfl, .refl (List.pairwise_singleton _ _)⟩
  | x :: y :: ys =>
    have hyx := h y (by simp) x (by simp)
    obtain ⟨run, rest, hrun, rfl, hchain⟩ :=
      extendRun_eq (decide (rank y < rank x)) (h.mono (List.subset_cons_self x (y :: ys)))
    refine ⟨_, rest, by rw [firstRun, hyx, pure_bind, hrun, pure_bind], x :: y :: run, rfl, ?_⟩
    have hall : (x :: y :: run).IsChain
        (fun a b => decide (rank b < rank a) = decide (rank y < rank x)) :=
      List.isChain_cons_cons.mpr ⟨rfl, hchain⟩
    by_cases hf : rank y < rank x
    · simp only [hf, decide_true, decide_eq_true_eq, if_true] at hall ⊢
      exact stableOrder_reverse hall
    · simp only [hf, decide_false, decide_eq_false_iff_not, not_lt] at hall ⊢
      have : Trans (fun a b : α => rank a ≤ rank b) (fun a b => rank a ≤ rank b)
        (fun a b => rank a ≤ rank b) := ⟨fun hab hbc => hab.trans hbc⟩
      exact .refl (List.isChain_iff_pairwise.mp hall)

/-- Inserting by halves puts the item behind all items of its rank. -/
theorem insertWithin_eq {x : α} {fuel : Nat} {ys : List α} (hfuel : ys.length ≤ fuel)
    (hasc : ys.Pairwise (fun a b => rank a ≤ rank b)) (h : RankedBy less rank (x :: ys)) :
    ∃ zs, insertWithin less x fuel ys = pure zs ∧ StableOrder rank (ys ++ [x]) zs := by
  induction fuel generalizing ys with
  | zero =>
    obtain rfl := List.eq_nil_of_length_eq_zero (Nat.le_zero.mp hfuel)
    exact ⟨[x], rfl, .refl (List.pairwise_singleton _ _)⟩
  | succ fuel ih =>
    rw [insertWithin]
    generalize hb : ys.take (ys.length / 2) = before
    have hys : before ++ ys.drop (ys.length / 2) = ys := by rw [← hb, List.take_append_drop]
    match ha : ys.drop (ys.length / 2) with
    | [] =>
      have hlen : ys.length = 0 := by
        have := List.drop_eq_nil_iff.mp ha
        omega
      obtain rfl := List.eq_nil_of_length_eq_zero hlen
      exact ⟨[x], rfl, .refl (List.pairwise_singleton _ _)⟩
    | y :: after =>
      rw [ha] at hys
      subst hys
      obtain ⟨hbefore, hafter, hcross⟩ := List.pairwise_append.mp hasc
      have hshort : before.length ≤ fuel ∧ after.length ≤ fuel := by
        have := congrArg List.length hb
        simp only [List.length_append, List.length_cons, List.length_take] at hfuel this
        omega
      simp only [h x (by simp) y (by simp), pure_bind]
      by_cases hxy : rank x < rank y
      · obtain ⟨zs, hzs, hst⟩ := ih hshort.1 hbefore (h.mono (by simp))
        refine ⟨zs ++ y :: after, by rw [if_pos (by simpa using hxy), hzs, pure_bind], ?_⟩
        refine hst.insert_before hafter ?_ hcross
        intro b hmem
        rcases List.mem_cons.mp hmem with rfl | hmem
        · exact hxy
        · exact hxy.trans_le (List.rel_of_pairwise_cons hafter hmem)
      · obtain ⟨zs, hzs, hst⟩ := ih hshort.2 hafter.tail
          (h.mono (List.cons_subset_cons x (by simp)))
        refine ⟨before ++ y :: zs, by rw [if_neg (by simpa using hxy), hzs, pure_bind], ?_⟩
        have hy : StableOrder rank ([y] ++ (after ++ [x])) ([y] ++ zs) := by
          refine .append (.refl (List.pairwise_singleton _ _)) hst ?_
          intro a hay b hmem
          rw [List.mem_singleton.mp hay]
          rcases List.mem_append.mp hmem with hmem | hmem
          · exact List.rel_of_pairwise_cons hafter hmem
          · rw [List.mem_singleton.mp hmem]; exact not_lt.mp hxy
        have := StableOrder.append (.refl hbefore) hy ?_
        · simpa using this
        intro a hab b hmem
        rcases List.mem_append.mp hmem with hmem | hmem
        · exact hcross a hab b (by simp [List.mem_singleton.mp hmem])
        rcases List.mem_append.mp hmem with hmem | hmem
        · exact hcross a hab b (by simp [hmem])
        · rw [List.mem_singleton.mp hmem]
          exact (hcross a hab y (by simp)).trans (not_lt.mp hxy)

theorem insertAll_eq {xs ys : List α} (hasc : ys.Pairwise (fun a b => rank a ≤ rank b))
    (h : RankedBy less rank (ys ++ xs)) :
    ∃ zs, insertAll less ys xs = pure zs ∧ StableOrder rank (ys ++ xs) zs := by
  induction xs generalizing ys with
  | nil => exact ⟨ys, rfl, by simpa using StableOrder.refl hasc⟩
  | cons x xs ih =>
    obtain ⟨ys', hys', hst⟩ := insertWithin_eq (x := x) le_rfl hasc (h.mono (by simp))
    have hsub : ys' ++ xs ⊆ ys ++ x :: xs := by
      intro a ha
      rcases List.mem_append.mp ha with ha | ha
      · have := hst.mem_iff.mp ha
        simp only [List.mem_append, List.mem_cons, List.not_mem_nil, or_false] at this ⊢
        tauto
      · simp [ha]
    obtain ⟨zs, hzs, hst'⟩ := ih hst.ascending (h.mono hsub)
    refine ⟨zs, by rw [insertAll, insert, hys', pure_bind, hzs], hst'.congr fun k => ?_⟩
    rw [ofRank_append k ys', hst.arrival k, ← ofRank_append, List.append_assoc,
      List.singleton_append]

/-- Sorting gives the stable order. -/
theorem sort_eq {xs : List α} (h : RankedBy less rank xs) :
    ∃ ys, sort less xs = pure ys ∧ StableOrder rank xs ys := by
  obtain ⟨run, rest, hrun, front, rfl, hst⟩ := firstRun_eq h
  have hsub : run ++ rest ⊆ front ++ rest := by
    intro a ha
    rcases List.mem_append.mp ha with ha | ha
    · exact List.mem_append_left _ (hst.mem_iff.mp ha)
    · exact List.mem_append_right _ ha
  obtain ⟨ys, hys, hst'⟩ := insertAll_eq hst.ascending (h.mono hsub)
  refine ⟨ys, by simp only [sort, hrun, pure_bind, hys], hst'.congr fun k => ?_⟩
  rw [ofRank_append, ofRank_append, hst.arrival]

/-- Sorting from the greatest item down gives the stable order by the ranks turned round. -/
theorem sortDown_eq {xs : List α} (h : RankedBy less rank xs) :
    ∃ ys, sortDown less xs = pure ys ∧ StableOrder (fun a => OrderDual.toDual (rank a)) xs ys := by
  have hback : RankedBy less rank xs.reverse := h.mono (List.reverse_subset.mpr (List.Subset.refl xs))
  obtain ⟨ys, hys, hst⟩ := sort_eq hback
  refine ⟨ys.reverse, by rw [sortDown, hys, pure_bind], ?_, fun k => ?_⟩
  · exact List.pairwise_reverse.mpr (hst.ascending.imp fun hab => hab)
  · have hk := congrArg List.reverse (hst.arrival (OrderDual.ofDual k))
    rw [ofRank, ofRank, ← List.filter_reverse, ← List.filter_reverse, List.reverse_reverse] at hk
    exact hk

end

end LinkedDocs.Sorting
