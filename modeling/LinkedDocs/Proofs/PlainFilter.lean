import LinkedDocs.Proofs.BranchOrdering
import LinkedDocs.Reference.Filter
import LinkedDocs.Store.Query

/-! Plain filters mean the same to a store and to the order of branches.

    A store tests a filter condition by condition, and the order of branches looks for the entries
    of a branch in a document. On a *plain* filter, whose keys are names and whose conditions are
    values to be equal to, both come to the same answer, as long as the document holds no list under
    a key of the filter: of a list the store also accepts an item. -/

namespace LinkedDocs.Query

open Value (Entries)
open BranchOrder (IsDocument covers)

/-- A key that names a field as a whole: it is no path and combines no filters. -/
def IsPlainKey (k : Value) : Prop :=
  k.hashable = true ∧ junction? k = none ∧
    match k with
    | .text name => '.' ∉ name.toList
    | .tuple xs | .set _ xs => (Value.text ".").occursIn xs = false
    | _ => False

/-- A condition that is a value to be equal to: neither null, nor a regular expression, nor a
    document of operators. -/
def IsPlainCondition (v : Value) : Prop :=
  v.isNull = false ∧ (∀ compiled pattern flags, v ≠ .regex compiled pattern flags) ∧
    isOperators v = .ok false

/-- A filter of names and values. -/
def IsPlain (filter : Value) : Prop :=
  ∃ es, filter.entries? = some es ∧ ∀ e ∈ es, IsPlainKey e.1 ∧ IsPlainCondition e.2

/-- No list stands in the document under a key of the filter. -/
def HoldsNoList (doc filter : Value) : Prop :=
  ∀ e ∈ filter.entries?.getD [], ∀ xs, (doc.entries?.getD []).get? e.1 ≠ some (.list xs)

/-- The document matches the filter. -/
def Matches (doc filter : Value) : Prop := matchesFilter doc filter = .ok true

theorem IsPlain.isDocument {filter : Value} (h : IsPlain filter) : IsDocument filter := by
  obtain ⟨es, hes, hplain⟩ := h
  exact ⟨es, hes, fun e he => (hplain e he).1.1⟩

theorem fieldValue?_plain {doc : Value} {es : Entries} (hd : doc.entries? = some es) {k : Value}
    (hk : IsPlainKey k) : fieldValue? doc k = .ok (es.get? k) := by
  have hentry : entry? doc k = .ok (es.get? k) := by
    unfold entry?
    rw [hd]
  obtain ⟨-, -, hname⟩ := hk
  cases k <;> simp_all [fieldValue?]

/-- A missing field does not equal a plain condition, and any other but a list only as a whole. -/
theorem equals_plain {value : Option Value} {condition : Value} (hc : condition.isNull = false)
    (hl : ∀ xs, value ≠ some (.list xs)) :
    equals value condition = value.any fun v => v.equal condition := by
  cases value with
  | none => rw [equals, hc]; rfl
  | some v => cases v <;> first | rfl | exact absurd rfl (hl _)

theorem checkCondition_plain {value : Option Value} {condition : Value}
    (hc : IsPlainCondition condition) (hl : ∀ xs, value ≠ some (.list xs)) :
    checkCondition value condition = .ok (value.any fun v => v.equal condition) := by
  obtain ⟨hnull, hregex, hops⟩ := hc
  rw [checkCondition, hops, ← equals_plain hnull hl]
  · rfl
  · exact hregex

theorem matchesEntries_plain {doc : Value} {es : Entries} (hd : doc.entries? = some es)
    {fs : Entries} (hf : ∀ e ∈ fs, IsPlainKey e.1 ∧ IsPlainCondition e.2)
    (hl : ∀ e ∈ fs, ∀ xs, es.get? e.1 ≠ some (.list xs)) :
    matchesEntries doc fs = .ok (fs.all fun e => (es.get? e.1).any fun v => v.equal e.2) := by
  induction fs with
  | nil => rfl
  | cons e fs ih =>
    obtain ⟨hkey, hcondition⟩ := hf e (by simp)
    have htail := ih (fun e he => hf e (by simp [he])) (fun e he => hl e (by simp [he]))
    rw [matchesEntries, hkey.2.1, fieldValue?_plain hd hkey]
    simp only [bind, Except.bind]
    rw [checkCondition_plain hcondition (hl e (by simp)), List.all_cons]
    cases (es.get? e.1).any fun v => v.equal e.2 with
    | true => simpa using htail
    | false => rfl

/-- The store's answer on a plain filter is the one by which branches are ordered. -/
theorem matchesFilter_plain {doc filter : Value} (hd : doc.isMapping = true)
    (hf : IsPlain filter) (hl : HoldsNoList doc filter) :
    matchesFilter doc filter = .ok (covers doc filter) := by
  obtain ⟨fs, hfs, hplain⟩ := hf
  obtain ⟨es, hes⟩ := Option.isSome_iff_exists.mp hd
  rw [HoldsNoList, hfs, hes] at hl
  have hentries : matchesFilter doc filter = matchesEntries doc fs := by
    cases filter <;> simp_all [Value.entries?, matchesFilter]
  rw [hentries, covers, hfs, hes]
  exact matchesEntries_plain hes hplain hl

theorem matches_iff_covers {doc filter : Value} (hd : doc.isMapping = true)
    (hf : IsPlain filter) (hl : HoldsNoList doc filter) :
    Matches doc filter ↔ covers doc filter = true := by
  rw [Matches, matchesFilter_plain hd hf hl, Except.ok.injEq]

/-- An alternative of plain filters matches where any of them does. -/
theorem matchesFilter_anyOf {doc : Value} {branches : List Value} (hd : doc.isMapping = true)
    (hb : ∀ b ∈ branches, IsPlain b ∧ HoldsNoList doc b) :
    matchesFilter doc (anyOf branches) = .ok (branches.any (covers doc)) := by
  have hany : anyOfFilters doc branches = .ok (branches.any (covers doc)) := by
    induction branches with
    | nil => rfl
    | cons b bs ih =>
      obtain ⟨hplain, hlist⟩ := hb b (by simp)
      rw [anyOfFilters, matchesFilter_plain hd hplain hlist, List.any_cons]
      cases covers doc b with
      | true => rfl
      | false => exact ih fun b hb' => hb b (by simp [hb'])
  have hfilter : matchesFilter doc (anyOf branches) =
      (anyOfFilters doc branches).bind fun holds => if holds then .ok true else .ok false := rfl
  rw [hfilter, hany, Except.bind]
  cases branches.any (covers doc) <;> rfl

/-- A plain filter is no alternative. -/
theorem not_isPlain_anyOf (branches : List Value) : ¬ IsPlain (anyOf branches) := by
  rintro ⟨es, hes, hplain⟩
  obtain rfl := Option.some.inj hes
  exact absurd (hplain _ (List.mem_singleton_self _)).1.2.1 (by simp [junction?])

end LinkedDocs.Query
