import LinkedDocs.Proofs.BoundValues
import LinkedDocs.Proofs.ReferenceOrder
import LinkedDocs.Proofs.StoredForm

/-! Filters hold nothing but storable values.

    What is bound in a template enters its filter in stored form, so a filter holds no domain
    object, set or address, whatever the reference values are. Reading documents as extended JSON
    keeps this: where it does not make an atom of a document, it only moves values of the
    document. -/

namespace LinkedDocs

open Value (Entries isStorable isStorable_stored)

namespace Value

theorem isStorable_of_isAtom {v : Value} (h : v.isAtom = true) : v.isStorable = true := by
  cases v <;> first | rfl | contradiction

theorem isStorable_entries {v : Value} {es : Entries} (h : v.isStorable = true)
    (hes : v.entries? = some es) : ∀ e ∈ es, e.2.isStorable = true := by
  cases v <;> cases hes <;> exact entriesStorable_iff.1 h

/-- Lists and documents of storable values are storable. -/
theorem isBuiltUp_isStorable : IsBuiltUp fun v => v.isStorable = true where
  atom := isStorable_of_isAtom
  list := allStorable_iff.2
  document h hv := by
    cases hv with
    | itself => exact entriesStorable_iff.2 fun e he => (h e he).2
    | atom hv => exact isStorable_of_isAtom hv
    | expression he hes hp ho =>
      have parts := isStorable_entries (h _ he).2 hes
      simp [isStorable, entriesStorable, parts _ hp, parts _ ho]

end Value

theorem Binding.brings_storable (b : Binding) :
    b.Brings (fun _ => True) fun v => v.isStorable = true where
  parameter _ := fun v _ => isStorable_stored v
  evaluate _ := fun _ _ => ⟨trivial, fun v _ => isStorable_stored v⟩

namespace Property

theorem branch_givesStorable (p : Property) (l : Lookup) (value : Value) :
    Gives (p.branch l value) fun f => f.isStorable = true :=
  (gives_branch (p.binding value).brings_storable trivial Value.isBuiltUp_isStorable).mono
    fun _ => And.right

theorem isStorable_anyOf {bs : List Value} (h : ∀ b ∈ bs, b.isStorable = true) :
    (anyOf bs).isStorable = true := by
  have all := Value.allStorable_iff.2 h
  simp [anyOf, isStorable, Value.entriesStorable, all]

theorem lookupFilter_givesStorable (p : Property) (value : Value) :
    Gives (p.lookupFilter value) fun f => f.isStorable = true := by
  refine .seq fun l => ?_
  split
  · refine (gives_branches fun v _ => p.branch_givesStorable l v).bind ?_
    intro bs hbs
    exact .ok (isStorable_anyOf hbs)
  · exact p.branch_givesStorable l value

/-- The stored form of any value is storable, and stays as it is when it is stored again. A storable
    value is left as it is, but for the classes of its mappings, so that no comparison tells the two
    apart. And whatever the reference value, a filter that a lookup gives is storable. -/
theorem filter_holds_no_objects :
    (∀ v : Value, v.stored.isStorable = true ∧ v.stored.stored = v.stored) ∧
    (∀ v : Value, v.isStorable = true → v.stored = v.unclassed ∧
      ∀ w, v.stored.equal w = v.equal w ∧ w.equal v.stored = w.equal v) ∧
    ∀ (p : Property) (value filter : Value), p.isTemplated = true → p.filter value = .ok filter →
      filter.isStorable = true := by
  refine ⟨?_, ?_, ?_⟩
  · intro v
    exact ⟨isStorable_stored v, v.stored_stored⟩
  · intro v hv
    have hstored : v.stored = v.unclassed := v.stored_eq_unclassed hv
    refine ⟨hstored, ?_⟩
    intro w
    rw [hstored]
    exact ⟨v.unclassed_equal w, Value.equal_unclassed v w⟩
  · intro p value filter ht hf
    rw [Property.filter, if_pos ht] at hf
    exact p.lookupFilter_givesStorable value filter hf

end Property

namespace Imprint

/-- A lookup by the whole reference value. -/
def publisherLookup : Lookup := ⟨"{ publisher: ?0 }", "", "", "", false⟩

def publishers : Property :=
  ⟨"publishers", "publishers", .mapping none, "publisher", false, false, .lookup publisherLookup⟩

/-- A domain object whose field is stored under another name. -/
def publisher : Value :=
  .entity ⟨"Publisher", .model, ["acronym"], [("acronym", "acc")]⟩ [("acronym", .text "dpunkt")]

/-- The object and an address, in a tuple in a set. -/
def nested : Value := .set true [.tuple [publisher, .url "a://b"]]

def nestedFilter : Value :=
  .map [(.text "publisher",
    .list [.tuple [.map [(.text "acc", .text "dpunkt")], .text "a://b"]])]

theorem filter_nested : publishers.filter nested = .ok nestedFilter := by
  have hparse : Template.parse publisherLookup.template =
      .ok (.document [(.name "publisher", .placeholder 0)]) := by with_unfolding_all rfl
  rw [Property.filter_eq_branch (l := publisherLookup) rfl rfl, Property.branch, Binding.decode]
  simp only [Binding.decodeValue, Run.outcome, Run.exec_bind, hparse, Run.exec_lift]
  with_unfolding_all rfl

theorem isStorable_nestedFilter :
    publishers.isTemplated = true ∧ publishers.filter nested = .ok nestedFilter ∧
      nestedFilter.isStorable = true ∧ nested.isStorable = false ∧
      nested.stored.isStorable = true :=
  ⟨rfl, filter_nested,
    Property.filter_holds_no_objects.2.2 publishers nested nestedFilter rfl filter_nested, rfl,
    (Property.filter_holds_no_objects.1 nested).1⟩

end Imprint

end LinkedDocs
