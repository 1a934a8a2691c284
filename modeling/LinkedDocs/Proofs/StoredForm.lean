import LinkedDocs.Value.Equality
import LinkedDocs.Value.Stored

/-! The stored form of values.

    Bringing a value into its stored form takes every domain object, set and address out of it,
    however they are nested: what an object is replaced by is made of the stored forms of its
    fields. A value without any of them is left as it is, except that a mapping forgets its class.
    No comparison sees the class of a mapping, so the stored form of such a value equals it. -/

namespace LinkedDocs.Value

theorem allStorable_iff {xs : List Value} :
    allStorable xs = true ↔ ∀ x ∈ xs, x.isStorable = true := by
  induction xs with
  | nil => simp [allStorable]
  | cons x xs ih => rw [allStorable, Bool.and_eq_true, ih, List.forall_mem_cons]

theorem entriesStorable_iff {es : Entries} :
    entriesStorable es = true ↔ ∀ e ∈ es, e.2.isStorable = true := by
  induction es with
  | nil => simp [entriesStorable]
  | cons e es ih => rw [entriesStorable, Bool.and_eq_true, ih, List.forall_mem_cons]

/-- The fields of an object make a document of their values. -/
theorem mem_storedFields {s : Shape} {fs : List (String × Value)} {e : Value × Value}
    (h : e ∈ storedFields s fs) : (∃ name, e.1 = .text name) ∧ ∃ f ∈ fs, f.2 = e.2 := by
  obtain ⟨f, hf, rfl⟩ := List.mem_map.1 h
  exact ⟨⟨_, rfl⟩, f, (List.mem_filter.1 hf).1, rfl⟩

/-! ### Nothing but storable values is left -/

mutual

theorem isStorable_stored (v : Value) : v.stored.isStorable = true := by
  cases v with
  | list xs | tuple xs | set _ xs => exact allStorable_stored xs
  | map es | mapping _ es => exact entriesStorable_stored es
  | entity s fs =>
    rw [stored]
    split
    · refine entriesStorable_iff.2 fun e he => ?_
      obtain ⟨-, f, hf, hfe⟩ := mem_storedFields he
      rw [← hfe]
      exact attributesStorable_stored fs f hf
    · next h => cases hf : s.form <;> simp_all [isStorable]
  | _ => rfl
termination_by structural v

theorem allStorable_stored : ∀ xs : List Value, allStorable (storedAll xs) = true
  | [] => rfl
  | x :: xs => by rw [storedAll, allStorable, isStorable_stored x, allStorable_stored xs]; rfl
termination_by structural xs => xs

theorem entriesStorable_stored : ∀ es : Entries, entriesStorable (storedEntries es) = true
  | [] => rfl
  | (_, v) :: es => by
    rw [storedEntries, entriesStorable, isStorable_stored v, entriesStorable_stored es]; rfl
termination_by structural es => es

theorem attributesStorable_stored : ∀ fs : List (String × Value),
    ∀ f ∈ storedAttributes fs, f.2.isStorable = true
  | [] => List.forall_mem_nil _
  | (_, v) :: fs => by
    rw [storedAttributes, List.forall_mem_cons]
    exact ⟨isStorable_stored v, attributesStorable_stored fs⟩
termination_by structural fs => fs

end

/-! ### Storable values stay -/

mutual

/-- The value with every mapping in it of the ordinary class. -/
def unclassed : Value → Value
  | .list xs => .list (unclassedAll xs)
  | .tuple xs => .tuple (unclassedAll xs)
  | .map es | .mapping _ es => .map (unclassedEntries es)
  | v => v
termination_by structural v => v

def unclassedAll : List Value → List Value
  | [] => []
  | x :: xs => unclassed x :: unclassedAll xs
termination_by structural xs => xs

def unclassedEntries : Entries → Entries
  | [] => []
  | (k, v) :: es => (k, unclassed v) :: unclassedEntries es
termination_by structural es => es

end

mutual

theorem stored_eq_unclassed (v : Value) (h : v.isStorable = true) : v.stored = v.unclassed := by
  cases v with
  | list xs => exact congrArg Value.list (storedAll_eq_unclassed xs h)
  | tuple xs => exact congrArg Value.tuple (storedAll_eq_unclassed xs h)
  | map es | mapping _ es => exact congrArg Value.map (storedEntries_eq_unclassed es h)
  | entity s fs =>
    rw [stored, if_neg]
    · rfl
    · rw [isStorable] at h
      cases hf : s.form <;> simp_all
  | set | url => contradiction
  | _ => rfl
termination_by structural v

theorem storedAll_eq_unclassed : ∀ xs : List Value, allStorable xs = true →
    storedAll xs = unclassedAll xs
  | [], _ => rfl
  | x :: xs, h => by
    rw [allStorable, Bool.and_eq_true] at h
    rw [storedAll, unclassedAll, stored_eq_unclassed x h.1, storedAll_eq_unclassed xs h.2]
termination_by structural xs => xs

theorem storedEntries_eq_unclassed : ∀ es : Entries, entriesStorable es = true →
    storedEntries es = unclassedEntries es
  | [], _ => rfl
  | (k, v) :: es, h => by
    rw [entriesStorable, Bool.and_eq_true] at h
    rw [storedEntries, unclassedEntries, stored_eq_unclassed v h.1,
      storedEntries_eq_unclassed es h.2]
termination_by structural es => es

end

theorem unclassedEntries_eq (es : Entries) :
    unclassedEntries es = es.map fun e => (e.1, e.2.unclassed) := by
  induction es with
  | nil => rfl
  | cons e es ih =>
    rw [unclassedEntries, ih]
    rfl

mutual

/-- No class of a mapping is left. -/
theorem unclassed_stored (v : Value) : v.stored.unclassed = v.stored := by
  cases v with
  | list xs | set _ xs => exact congrArg Value.list (unclassedAll_stored xs)
  | tuple xs => exact congrArg Value.tuple (unclassedAll_stored xs)
  | map es | mapping _ es => exact congrArg Value.map (unclassedEntries_stored es)
  | entity s fs =>
    rw [stored]
    split
    · rw [unclassed, unclassedEntries_eq]
      congr 1
      refine (List.map_congr_left fun e he => ?_).trans (List.map_id _)
      obtain ⟨-, f, hf, hfe⟩ := mem_storedFields he
      rw [← hfe, unclassed_attributes fs f hf, hfe]
      rfl
    · rfl
  | _ => rfl
termination_by structural v

theorem unclassedAll_stored : ∀ xs : List Value, unclassedAll (storedAll xs) = storedAll xs
  | [] => rfl
  | x :: xs => by rw [storedAll, unclassedAll, unclassed_stored x, unclassedAll_stored xs]
termination_by structural xs => xs

theorem unclassedEntries_stored : ∀ es : Entries,
    unclassedEntries (storedEntries es) = storedEntries es
  | [] => rfl
  | (_, v) :: es => by
    rw [storedEntries, unclassedEntries, unclassed_stored v, unclassedEntries_stored es]
termination_by structural es => es

theorem unclassed_attributes : ∀ fs : List (String × Value),
    ∀ f ∈ storedAttributes fs, f.2.unclassed = f.2
  | [] => List.forall_mem_nil _
  | (_, v) :: fs => by
    rw [storedAttributes, List.forall_mem_cons]
    exact ⟨unclassed_stored v, unclassed_attributes fs⟩
termination_by structural fs => fs

end

/-- The stored form of a stored form is itself. -/
theorem stored_stored (v : Value) : v.stored.stored = v.stored := by
  rw [stored_eq_unclassed _ (isStorable_stored v), unclassed_stored]

/-! ### No comparison sees the class of a mapping -/

theorem length_unclassedEntries (es : Entries) : (unclassedEntries es).length = es.length := by
  rw [unclassedEntries_eq, List.length_map]

mutual

/-- As the first value of a comparison. -/
theorem unclassed_equal (v w : Value) : v.unclassed.equal w = v.equal w := by
  cases v with
  | list xs => cases w <;> first | rfl | exact unclassedAll_equal xs _
  | tuple xs => cases w <;> first | rfl | exact unclassedAll_equal xs _
  | map es | mapping _ es =>
    rw [unclassed, equal, equal]
    cases w.entries? with
    | none => rfl
    | some fs => simp only [length_unclassedEntries, unclassedEntries_within es]
  | _ => rfl
termination_by structural v

theorem unclassedAll_equal : ∀ xs ys : List Value, equalAll (unclassedAll xs) ys = equalAll xs ys
  | [], _ => rfl
  | x :: xs, [] => rfl
  | x :: xs, y :: ys => by
    rw [unclassedAll, equalAll, unclassed_equal x, unclassedAll_equal xs, equalAll]
termination_by structural xs => xs

theorem unclassedEntries_within : ∀ es fs : Entries,
    entriesWithin (unclassedEntries es) fs = entriesWithin es fs
  | [], _ => rfl
  | (k, v) :: es, fs => by
    rw [unclassedEntries, entriesWithin, unclassedEntries_within es, entriesWithin]
    simp only [unclassed_equal v]
termination_by structural es => es

end

mutual

/-- As the second value of a comparison. Comparing recurses on the first one, so the induction is on
    the second here, and the entries of the first are gone through inside it. -/
theorem equal_unclassed (w v : Value) : v.equal w.unclassed = v.equal w := by
  cases w with
  | list ys => cases v <;> first | rfl | exact equalAll_unclassed ys _
  | tuple ys => cases v <;> first | rfl | exact equalAll_unclassed ys _
  | map fs | mapping _ fs =>
    have within (es : Entries) : entriesWithin es (unclassedEntries fs) = entriesWithin es fs := by
      induction es with
      | nil => rfl
      | cons e es ih => rw [entriesWithin, entriesWithin, ih, any_unclassed fs]
    cases v with
    | map es | mapping _ es =>
      rw [unclassed, equal, equal]
      simp only [entries?, length_unclassedEntries, within]
    | _ => rfl
  | _ => rfl
termination_by structural w

theorem equalAll_unclassed : ∀ ys xs : List Value, equalAll xs (unclassedAll ys) = equalAll xs ys
  | [], _ => rfl
  | y :: ys, [] => rfl
  | y :: ys, x :: xs => by
    rw [unclassedAll, equalAll, equal_unclassed y, equalAll_unclassed ys, equalAll]
termination_by structural ys => ys

/-- Entries in which an entry is looked for. -/
theorem any_unclassed : ∀ (fs : Entries) (k v : Value),
    (unclassedEntries fs).any (fun f => k.equal f.1 && v.equal f.2)
      = fs.any fun f => k.equal f.1 && v.equal f.2
  | [], _, _ => rfl
  | (_, w) :: fs, k, v => by
    rw [unclassedEntries, List.any_cons, List.any_cons, any_unclassed fs, equal_unclassed w]
termination_by structural fs => fs

end

end LinkedDocs.Value
