import LinkedDocs.ExtendedJson
import Mathlib

/-! Members with names that may repeat.

    A document is built by assigning its members in turn. A name that was assigned before keeps its
    place and takes the new value, so in the end each name stands where it was first given, with the
    value it was last given. -/

namespace LinkedDocs

open Value (Entries)

variable {α β : Type}

/-- Each name once, where it stands first, with the value that was given to it last. -/
def lastWins (ms : List (String × α)) : List (String × α) :=
  (ms.map (·.1)).eraseDups.filterMap fun k => (ms.reverse.lookup k).map fun v => (k, v)

/-- The entries of a document with the given members. -/
def textEntries (ms : List (String × Value)) : Entries := ms.map fun m => (.text m.1, m.2)

variable {ms : List (String × α)} {k : String}

/-! ### One more member -/

/-- A new name goes to the end. -/
theorem lastWins_append_new (h : k ∉ ms.map (·.1)) (v : α) :
    lastWins (ms ++ [(k, v)]) = lastWins ms ++ [(k, v)] := by
  have names : ((ms ++ [(k, v)]).map (·.1)).eraseDups = (ms.map (·.1)).eraseDups ++ [k] := by
    rw [List.map_append, List.eraseDups_append]
    simp [List.removeAll, List.eraseDups_cons, h]
  rw [lastWins, names, List.filterMap_append, List.reverse_append]
  congr 1
  · refine List.filterMap_congr fun k' hk' => ?_
    have other : (k' == k) = false := by
      rw [beq_eq_false_iff_ne]
      rintro rfl
      exact h (List.mem_eraseDups.1 hk')
    simp [List.lookup_cons, other]
  · simp

/-- A known name takes the new value where it stands. -/
theorem lastWins_append_known (h : k ∈ ms.map (·.1)) (v : α) :
    lastWins (ms ++ [(k, v)]) = (lastWins ms).map fun m => (m.1, if m.1 = k then v else m.2) := by
  have names : ((ms ++ [(k, v)]).map (·.1)).eraseDups = (ms.map (·.1)).eraseDups := by
    rw [List.map_append, List.eraseDups_append]
    simp [List.removeAll, h]
  rw [lastWins, lastWins, names, List.map_filterMap, List.reverse_append]
  refine List.filterMap_congr fun k' hk' => ?_
  rw [List.reverse_singleton, List.singleton_append, List.lookup_cons]
  by_cases same : k' = k
  · subst same
    obtain ⟨m, hm, rfl⟩ := List.mem_map.1 h
    have found : (ms.reverse.lookup m.1).isSome := by
      rw [List.lookup_isSome_iff]
      exact ⟨m, List.mem_reverse.2 hm, beq_self_eq_true _⟩
    obtain ⟨w, hw⟩ := Option.isSome_iff_exists.1 found
    simp [hw]
  · simp [beq_eq_false_iff_ne.2 same, Function.comp_def, same]

theorem names_lastWins (ms : List (String × α)) :
    (lastWins ms).map (·.1) = (ms.map (·.1)).eraseDups := by
  induction ms using List.reverseRecOn with
  | nil => rfl
  | append_singleton ms m ih =>
    obtain ⟨k, v⟩ := m
    by_cases h : k ∈ ms.map (·.1)
    · rw [lastWins_append_known h, List.map_map, List.map_append, List.eraseDups_append]
      change (lastWins ms).map (·.1) = _
      simp [List.removeAll, h, ih]
    · rw [lastWins_append_new h, List.map_append, List.map_append, List.eraseDups_append, ih]
      simp [List.removeAll, List.eraseDups_cons, h]

theorem mem_names_lastWins : k ∈ (lastWins ms).map (·.1) ↔ k ∈ ms.map (·.1) := by
  rw [names_lastWins, List.mem_eraseDups]

theorem nodup_names_lastWins (ms : List (String × α)) : ((lastWins ms).map (·.1)).Nodup := by
  induction ms using List.reverseRecOn with
  | nil => exact List.nodup_nil
  | append_singleton ms m ih =>
    obtain ⟨k, v⟩ := m
    by_cases h : k ∈ ms.map (·.1)
    · rw [lastWins_append_known h, List.map_map]
      exact ih
    · rw [lastWins_append_new h, List.map_append]
      refine List.nodup_append.2 ⟨ih, List.nodup_singleton k, ?_⟩
      rintro a ha b hb rfl
      obtain rfl : a = k := List.mem_singleton.1 hb
      exact h (mem_names_lastWins.1 ha)

/-- What is done to the values does not matter to the names. -/
theorem lastWins_map (f : α → β) (ms : List (String × α)) :
    lastWins (ms.map fun m => (m.1, f m.2)) = (lastWins ms).map fun m => (m.1, f m.2) := by
  induction ms using List.reverseRecOn with
  | nil => rfl
  | append_singleton ms m ih =>
    obtain ⟨k, v⟩ := m
    have names : (ms.map fun m => (m.1, f m.2)).map (·.1) = ms.map (·.1) := by
      rw [List.map_map]
      rfl
    rw [List.map_append, List.map_singleton]
    by_cases h : k ∈ ms.map (·.1)
    · rw [lastWins_append_known (names ▸ h), lastWins_append_known h, ih, List.map_map,
        List.map_map]
      refine List.map_congr_left fun m _ => ?_
      by_cases same : m.1 = k <;> simp [same]
    · rw [lastWins_append_new (names ▸ h), lastWins_append_new h, ih, List.map_append]
      rfl

/-! ### Assigning members -/

variable {es : List (String × Value)} {v : Value}

theorem equal_text (k k' : String) : (Value.text k).equal (.text k') = (k == k') := rfl

theorem put_new (h : k ∉ es.map (·.1)) :
    Entries.put (textEntries es) (.text k) v = textEntries (es ++ [(k, v)]) := by
  induction es with
  | nil => rfl
  | cons e es ih =>
    rw [List.map_cons, List.mem_cons, not_or] at h
    have other : (Value.text k).equal (.text e.1) = false := beq_eq_false_iff_ne.2 h.1
    rw [textEntries, List.map_cons, Entries.put, other, if_neg Bool.false_ne_true]
    exact congrArg _ (ih h.2)

theorem put_known (h : k ∈ es.map (·.1)) (nodup : (es.map (·.1)).Nodup) :
    Entries.put (textEntries es) (.text k) v
      = textEntries (es.map fun e => (e.1, if e.1 = k then v else e.2)) := by
  induction es with
  | nil => cases h
  | cons e es ih =>
    rw [List.map_cons, List.nodup_cons] at nodup
    rw [textEntries, List.map_cons, Entries.put]
    by_cases same : e.1 = k
    · have rest : es.map (fun e => (e.1, if e.1 = k then v else e.2)) = es := by
        refine (List.map_congr_left fun e' he' => ?_).trans (List.map_id es)
        have other : e'.1 ≠ k := by
          rintro rfl
          exact nodup.1 (same ▸ List.mem_map_of_mem he')
        rw [if_neg other]
        rfl
      rw [equal_text, same, beq_self_eq_true, if_pos rfl, List.map_cons, rest, if_pos same, same]
      rfl
    · have other : (Value.text k).equal (.text e.1) = false :=
        beq_eq_false_iff_ne.2 (Ne.symm same)
      rw [other, if_neg Bool.false_ne_true, List.map_cons, if_neg same]
      refine congrArg _ (ih ?_ nodup.2)
      rcases List.mem_cons.1 h with rfl | h
      · exact absurd rfl same
      · exact h

/-- Members that are assigned in turn make up the document in which the last value of each name
    wins. -/
theorem ofList_textEntries (ms : List (String × Value)) :
    Entries.ofList (textEntries ms) = textEntries (lastWins ms) := by
  induction ms using List.reverseRecOn with
  | nil => rfl
  | append_singleton ms m ih =>
    obtain ⟨k, v⟩ := m
    have last : Entries.ofList (textEntries (ms ++ [(k, v)]))
        = Entries.put (Entries.ofList (textEntries ms)) (.text k) v := by
      rw [Entries.ofList, textEntries, List.map_append, List.foldl_append]
      rfl
    rw [last, ih]
    by_cases h : k ∈ ms.map (·.1)
    · rw [put_known (mem_names_lastWins.2 h) (nodup_names_lastWins ms), lastWins_append_known h]
    · rw [put_new (mt mem_names_lastWins.1 h), lastWins_append_new h]

/-- A document none of whose names is marked is itself. -/
theorem ExtendedJson.interpret_unmarked (h : ∀ k ∈ es.map (·.1), conversion? k = none) :
    interpret (textEntries es) = .ok (.map (textEntries es)) := by
  have unmarked : (textEntries es).findSome? (fun e => e.1.text?.bind conversion?) = none := by
    rw [textEntries, List.findSome?_eq_none_iff]
    rintro x hx
    obtain ⟨e, he, rfl⟩ := List.mem_map.1 hx
    exact h e.1 (List.mem_map_of_mem he)
  rw [interpret, unmarked]

end LinkedDocs
