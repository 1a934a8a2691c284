import LinkedDocs.Proofs.StableSorting
import LinkedDocs.Reference.BranchOrder

/-! The order of the branches is a stable lexicographic order.

    A document and a list of branches give a vector: which branches the document lacks. Truth values
    are ordered with false before true, so of two documents the one goes first that has the first
    branch in which their vectors differ. The comparison by branches is the lexicographic order of
    these vectors, whatever it says of documents that no branch tells apart, and restoring the order
    of documents is the stable order by them. -/

namespace LinkedDocs.BranchOrder

open Value (Entries)
open Sorting (StableOrder)

/-- A mapping whose keys can be keys. -/
def IsDocument (v : Value) : Prop :=
  ∃ es, v.entries? = some es ∧ ∀ e ∈ es, e.1.hashable = true

/-- Whether a document has an equal entry for every entry of a branch. -/
def covers (doc branch : Value) : Bool :=
  (branch.entries?.getD []).all fun e =>
    ((doc.entries?.getD []).get? e.1).any fun v => v.equal e.2

/-- Which branches a document lacks. -/
def lacks (branches : List Value) (doc : Value) : List Bool := branches.map fun b => !covers doc b

/-- The number of the first branch that a document has; the number of branches if it has none. -/
def firstBranch (branches : List Value) (doc : Value) : Nat := branches.findIdx (covers doc)

/-- The comparison of two documents is negative. -/
def GoesBefore (branches : List Value) (d₁ d₂ : Value) : Prop :=
  ∃ n : Int, compare branches d₁ d₂ = .ok n ∧ n < 0

/-- A strict order of the items of a list in which being undecided is transitive, too. -/
structure StrictWeakOrderOn {α : Type} (r : α → α → Prop) (xs : List α) : Prop where
  irrefl : ∀ a ∈ xs, ¬ r a a
  trans : ∀ a ∈ xs, ∀ b ∈ xs, ∀ c ∈ xs, r a b → r b c → r a c
  undecided_trans : ∀ a ∈ xs, ∀ b ∈ xs, ∀ c ∈ xs,
    ¬ r a b ∧ ¬ r b a → ¬ r b c ∧ ¬ r c b → ¬ r a c ∧ ¬ r c a

theorem IsDocument.isMapping {d : Value} (h : IsDocument d) : d.isMapping = true := by
  obtain ⟨es, hes, -⟩ := h
  rw [Value.isMapping, hes]
  rfl

theorem isDocument_map {es : Entries} (h : es.all (fun e => e.1.hashable) = true) :
    IsDocument (.map es) :=
  ⟨es, rfl, List.all_eq_true.mp h⟩

/-! ### The comparison -/

theorem contains_eq_any_get? (es : Entries) (k : Value) : es.contains k = (es.get? k).isSome := by
  induction es with
  | nil => rfl
  | cons e es ih =>
    rw [Entries.contains, Entries.get?] at ih ⊢
    rw [List.any_cons, List.find?_cons]
    cases k.equal e.1 with
    | true => rfl
    | false => simpa using ih

/-- An entry is looked for under its key. -/
theorem hasEntry_eq {doc : Value} {es : Entries} (hd : doc.entries? = some es)
    {e : Value × Value} (he : e.1.hashable = true) :
    hasEntry doc e = .ok ((es.get? e.1).any fun v => v.equal e.2) := by
  have hcontains : doc.contains e.1 = .ok (es.contains e.1) := by
    cases doc <;> simp_all [Value.entries?, Value.contains]
  have hget : doc.getItem e.1 = (es.get? e.1).elim (.error .key) .ok := by
    simp only [Value.getItem, hd, he]
    cases es.get? e.1 <;> rfl
  rw [hasEntry, hcontains, hget, contains_eq_any_get?]
  cases es.get? e.1 <;> rfl

theorem hasEntries_eq {doc : Value} {es : Entries} (hd : doc.entries? = some es) {bs : Entries}
    (hb : ∀ e ∈ bs, e.1.hashable = true) :
    hasEntries doc bs = .ok (bs.all fun e => (es.get? e.1).any fun v => v.equal e.2) := by
  induction bs with
  | nil => rfl
  | cons e bs ih =>
    rw [hasEntries, hasEntry_eq hd (hb e (by simp)), ih fun e he => hb e (by simp [he]),
      List.all_cons]
    cases (es.get? e.1).any fun v => v.equal e.2 <;> rfl

/-- Whether a document has a branch is always decided. -/
theorem matchesBranch_eq {doc branch : Value} (hd : doc.isMapping = true) (hb : IsDocument branch) :
    matchesBranch doc branch = .ok (covers doc branch) := by
  obtain ⟨bs, hbs, hkeys⟩ := hb
  obtain ⟨es, hes⟩ := Option.isSome_iff_exists.mp hd
  rw [matchesBranch, hbs, covers, hbs, hes]
  exact hasEntries_eq hes hkeys

theorem lacks_cons (b : Value) (bs : List Value) (d : Value) :
    lacks (b :: bs) d = (!covers d b) :: lacks bs d := rfl

/-- The loop over the branches decides by the first one in which the vectors differ. -/
theorem compareFrom_eq {branches : List Value} (hB : ∀ b ∈ branches, IsDocument b) {d₁ d₂ : Value}
    (h₁ : d₁.isMapping = true) (h₂ : d₂.isMapping = true) (ties : Int) :
    compareFrom ties d₁ d₂ branches = .ok
      (if lacks branches d₁ < lacks branches d₂ then -1
        else if lacks branches d₂ < lacks branches d₁ then 1 else ties) := by
  induction branches with
  | nil => simp [compareFrom, lacks]
  | cons b bs ih =>
    rw [compareFrom, matchesBranch_eq h₁ (hB b (by simp)), matchesBranch_eq h₂ (hB b (by simp)),
      ih fun b hb => hB b (by simp [hb])]
    simp only [lacks_cons, List.cons_lt_cons_iff]
    cases covers d₁ b <;> cases covers d₂ b <;> simp [bind, Except.bind, pure, Except.pure]

theorem compare_eq {branches : List Value} (hB : ∀ b ∈ branches, IsDocument b) {d₁ d₂ : Value}
    (h₁ : d₁.isMapping = true) (h₂ : d₂.isMapping = true) :
    compare branches d₁ d₂ = .ok
      (if lacks branches d₁ < lacks branches d₂ then -1
        else if lacks branches d₂ < lacks branches d₁ then 1 else (branches.length : Int)) :=
  compareFrom_eq hB h₁ h₂ _

/-- The comparison is negative exactly where the vectors are in lexicographic order. -/
theorem compare_neg {branches : List Value} (hB : ∀ b ∈ branches, IsDocument b) {d₁ d₂ : Value}
    (h₁ : d₁.isMapping = true) (h₂ : d₂.isMapping = true) :
    ∃ n : Int, compare branches d₁ d₂ = .ok n ∧ (n < 0 ↔ lacks branches d₁ < lacks branches d₂) := by
  refine ⟨_, compare_eq hB h₁ h₂, ?_⟩
  have hlen := Int.natCast_nonneg branches.length
  by_cases h : lacks branches d₁ < lacks branches d₂
  · rw [if_pos h]
    exact iff_of_true (by decide) h
  · rw [if_neg h]
    refine iff_of_false ?_ h
    split <;> omega

theorem goesBefore_iff {branches : List Value} (hB : ∀ b ∈ branches, IsDocument b) {d₁ d₂ : Value}
    (h₁ : d₁.isMapping = true) (h₂ : d₂.isMapping = true) :
    GoesBefore branches d₁ d₂ ↔ lacks branches d₁ < lacks branches d₂ := by
  obtain ⟨n, hn, hneg⟩ := compare_neg hB h₁ h₂
  rw [GoesBefore, hn, ← hneg]
  simp

theorem before_eq {branches : List Value} (hB : ∀ b ∈ branches, IsDocument b) {d₁ d₂ : Value}
    (h₁ : d₁.isMapping = true) (h₂ : d₂.isMapping = true) :
    before branches d₁ d₂ = .ok (decide (lacks branches d₁ < lacks branches d₂)) := by
  obtain ⟨n, hn, hneg⟩ := compare_neg hB h₁ h₂
  rw [before, hn, Except.map]
  simp only [hneg]

/-! ### Restoring the order -/

/-- Restoring gives the stable order by what the documents lack. -/
theorem restore_eq {branches docs : List Value} (hB : ∀ b ∈ branches, IsDocument b)
    (hD : ∀ d ∈ docs, d.isMapping = true) :
    ∃ ys, restore branches docs = .ok ys ∧ StableOrder (lacks branches) docs ys := by
  have hranked : Sorting.RankedBy (before branches) (lacks branches) docs := by
    intro a ha b hb
    rw [before_eq hB (hD a ha) (hD b hb)]
    congr
  exact Sorting.sort_eq hranked

theorem firstBranch_cons (b : Value) (bs : List Value) (d : Value) :
    firstBranch (b :: bs) d = if covers d b then 0 else firstBranch bs d + 1 := by
  rw [firstBranch, List.findIdx_cons, firstBranch, cond_eq_ite]

theorem firstBranch_eq_length_iff (branches : List Value) (d : Value) :
    firstBranch branches d = branches.length ↔ ∀ c ∈ branches, covers d c = false := by
  rw [firstBranch, List.findIdx_eq_length]

/-- A smaller vector has its first branch no later. -/
theorem firstBranch_le_of_lacks_le {branches : List Value} {d₁ d₂ : Value}
    (h : lacks branches d₁ ≤ lacks branches d₂) :
    firstBranch branches d₁ ≤ firstBranch branches d₂ := by
  induction branches with
  | nil => exact le_rfl
  | cons b bs ih =>
    rw [lacks_cons, lacks_cons] at h
    rw [firstBranch_cons, firstBranch_cons]
    cases h₁ : covers d₁ b with
    | true => simp
    | false =>
      cases h₂ : covers d₂ b with
      | true =>
        rw [h₁, h₂] at h
        exact absurd h (not_le.mpr (List.cons_lt_cons_iff.mpr (.inl (by decide))))
      | false =>
        rw [h₁, h₂] at h
        have htail : lacks bs d₁ ≤ lacks bs d₂ := by
          refine not_lt.mp fun hlt => not_le.mpr ?_ h
          exact List.cons_lt_cons_iff.mpr (.inr ⟨rfl, hlt⟩)
        simpa using ih htail

/-- What the order of the branches is, for documents in any order of arrival: a strict weak order
    whose ties are reported by the number of branches in both directions, and which restoring turns
    into the one stable order by what the documents lack. There, the first branch that a document
    has comes ever later, documents that have no branch come last, and the order of arrival does not
    matter where no two documents have the same branches. -/
theorem restore_is_stable_order {branches docs : List Value} (hB : ∀ b ∈ branches, IsDocument b)
    (hD : ∀ d ∈ docs, IsDocument d) :
    StrictWeakOrderOn (GoesBefore branches) docs ∧
    (∀ d₁ ∈ docs, ∀ d₂ ∈ docs, ¬ GoesBefore branches d₁ d₂ → ¬ GoesBefore branches d₂ d₁ →
      compare branches d₁ d₂ = .ok branches.length ∧
      compare branches d₂ d₁ = .ok branches.length) ∧
    ∃ ys, restore branches docs = .ok ys ∧
      ys.Perm docs ∧
      (∀ zs, StableOrder (lacks branches) docs zs ↔ zs = ys) ∧
      ys.Pairwise (fun a b => firstBranch branches a ≤ firstBranch branches b) ∧
      ys.Pairwise (fun a b => (∀ c ∈ branches, covers a c = false) →
        ∀ c ∈ branches, covers b c = false) ∧
      (docs.Pairwise (fun a b => lacks branches a ≠ lacks branches b) →
        ∀ docs', docs'.Perm docs → restore branches docs' = .ok ys) := by
  have hM : ∀ d ∈ docs, d.isMapping = true := fun d hd => (hD d hd).isMapping
  have hiff : ∀ a ∈ docs, ∀ b ∈ docs,
      (GoesBefore branches a b ↔ lacks branches a < lacks branches b) :=
    fun a ha b hb => goesBefore_iff hB (hM a ha) (hM b hb)
  obtain ⟨ys, hys, hst⟩ := restore_eq hB hM
  have hfirst := hst.ascending.imp fun hab => firstBranch_le_of_lacks_le hab
  refine ⟨⟨?_, ?_, ?_⟩, ?_, ys, hys, hst.perm,
    fun zs => ⟨fun hzs => hzs.unique hst, fun hzs => hzs ▸ hst⟩, hfirst, ?_, ?_⟩
  · intro a ha
    rw [hiff a ha a ha]
    exact lt_irrefl _
  · intro a ha b hb c hc
    rw [hiff a ha b hb, hiff b hb c hc, hiff a ha c hc]
    exact lt_trans
  · intro a ha b hb c hc
    rw [hiff a ha b hb, hiff b hb a ha, hiff b hb c hc, hiff c hc b hb, hiff a ha c hc,
      hiff c hc a ha]
    rintro ⟨hab, hba⟩ ⟨hbc, hcb⟩
    have hac : lacks branches a = lacks branches c :=
      (le_antisymm (not_lt.mp hba) (not_lt.mp hab)).trans
        (le_antisymm (not_lt.mp hcb) (not_lt.mp hbc))
    rw [hac]
    exact ⟨lt_irrefl _, lt_irrefl _⟩
  · intro a ha b hb hab hba
    rw [hiff a ha b hb] at hab
    rw [hiff b hb a ha] at hba
    rw [compare_eq hB (hM a ha) (hM b hb), compare_eq hB (hM b hb) (hM a ha)]
    simp only [if_neg hab, if_neg hba, and_self]
  · refine hfirst.imp fun {a b} hab hnone => ?_
    rw [← firstBranch_eq_length_iff] at hnone ⊢
    have hle : firstBranch branches b ≤ branches.length := List.findIdx_le_length
    omega
  · intro hne docs' hp
    obtain ⟨zs, hzs, hst'⟩ := restore_eq hB fun d hd => hM d (hp.mem_iff.mp hd)
    rw [hzs, hst'.unique (hst.of_perm hp hne)]

/-- Two branches that overlap in the third document, and a document that has neither. -/
theorem restore_overlapping :
    let a : Value := .map [(.text "a", .int 1)]
    let b : Value := .map [(.text "b", .int 2)]
    let both : Value := .map [(.text "a", .int 1), (.text "b", .int 2)]
    (∀ c ∈ [a, b], IsDocument c) ∧ (∀ d ∈ [b, .map [], both, a], IsDocument d) ∧
      StrictWeakOrderOn (GoesBefore [a, b]) [b, .map [], both, a] ∧
      restore [a, b] [b, .map [], both, a] = .ok [both, a, b, .map []] ∧
      ∀ zs, StableOrder (lacks [a, b]) [b, .map [], both, a] zs ↔ zs = [both, a, b, .map []] := by
  intro a b both
  have hB : ∀ c ∈ [a, b], IsDocument c := by
    simp only [List.forall_mem_cons, List.not_mem_nil, false_implies, implies_true, and_true]
    exact ⟨isDocument_map (by decide), isDocument_map (by decide)⟩
  have hD : ∀ d ∈ [b, .map [], both, a], IsDocument d := by
    simp only [List.forall_mem_cons, List.not_mem_nil, false_implies, implies_true, and_true]
    exact ⟨isDocument_map (by decide), isDocument_map (by decide), isDocument_map (by decide),
      isDocument_map (by decide)⟩
  have hrun : restore [a, b] [b, .map [], both, a] = .ok [both, a, b, .map []] := by
    with_unfolding_all rfl
  obtain ⟨hweak, -, ys, hys, -, hst, -⟩ := restore_is_stable_order hB hD
  obtain rfl : ys = [both, a, b, .map []] := Except.ok.inj (hys.symm.trans hrun)
  exact ⟨hB, hD, hweak, hrun, hst⟩

end LinkedDocs.BranchOrder
