import LinkedDocs.Proofs.BoundValues
import LinkedDocs.Proofs.BranchOrdering
import LinkedDocs.Proofs.Evaluation
import LinkedDocs.Proofs.Sums

/-! The keys of mappings.

    A mapping that exists has keys that can be keys, and so has every mapping in a value that
    exists. Nothing that is read off such a value or added up from such values is different, so the
    filters that a lookup decodes from references that exist are documents. -/

namespace LinkedDocs

open Value (Entries)
open BranchOrder (IsDocument)

namespace Value

mutual

/-- In no mapping anywhere in the value is there a key that cannot be one. -/
def isKeyed : Value → Bool
  | .list xs | .tuple xs | .set _ xs => allKeyed xs
  | .map es | .mapping _ es => entriesKeyed es
  | .dbRef _ id _ extras => id.isKeyed && fieldsKeyed extras
  | .code _ scope => scope.isKeyed
  | .record fs | .entity _ fs => fieldsKeyed fs
  | _ => true
termination_by structural v => v

def allKeyed : List Value → Bool
  | [] => true
  | x :: xs => x.isKeyed && allKeyed xs
termination_by structural xs => xs

def entriesKeyed : List (Value × Value) → Bool
  | [] => true
  | (k, v) :: es => k.hashable && v.isKeyed && entriesKeyed es
termination_by structural es => es

def fieldsKeyed : List (String × Value) → Bool
  | [] => true
  | (_, v) :: fs => v.isKeyed && fieldsKeyed fs
termination_by structural fs => fs

end

theorem allKeyed_iff {xs : List Value} : allKeyed xs = true ↔ ∀ x ∈ xs, x.isKeyed = true := by
  induction xs with
  | nil => simp [allKeyed]
  | cons x xs ih => rw [allKeyed, Bool.and_eq_true, ih, List.forall_mem_cons]

theorem entriesKeyed_iff {es : Entries} :
    entriesKeyed es = true ↔ ∀ e ∈ es, e.1.hashable = true ∧ e.2.isKeyed = true := by
  induction es with
  | nil => simp [entriesKeyed]
  | cons e es ih =>
    rw [entriesKeyed, Bool.and_eq_true, Bool.and_eq_true, ih, List.forall_mem_cons]

theorem fieldsKeyed_iff {fs : List (String × Value)} :
    fieldsKeyed fs = true ↔ ∀ f ∈ fs, f.2.isKeyed = true := by
  induction fs with
  | nil => simp [fieldsKeyed]
  | cons f fs ih => rw [fieldsKeyed, Bool.and_eq_true, ih, List.forall_mem_cons]

/-- A mapping whose keys are texts. -/
theorem isKeyed_map_text {fs : List (String × Value)} (h : fieldsKeyed fs = true) :
    isKeyed (.map (fs.map fun f => (.text f.1, f.2))) = true := by
  refine entriesKeyed_iff.2 fun e he => ?_
  obtain ⟨f, hf, rfl⟩ := List.mem_map.1 he
  exact ⟨rfl, fieldsKeyed_iff.1 h f hf⟩

theorem isKeyed_of_lookup {fs : List (String × Value)} (h : fieldsKeyed fs = true) {name : String}
    {x : Value} (hx : fs.lookup name = some x) : x.isKeyed = true :=
  fieldsKeyed_iff.1 h _ (mem_of_lookup hx)

theorem isKeyed_dictionary {v x : Value} (h : v.isKeyed = true)
    (hx : Member.dictionary? v = some x) : x.isKeyed = true := by
  unfold Member.dictionary? at hx
  split at hx
  · cases hx
    exact isKeyed_map_text h
  · split at hx <;> cases hx
    exact isKeyed_map_text h
  · contradiction

/-- What a value shares with all of its type, but for the attributes as a mapping, has no keys. -/
theorem isKeyed_member {v x : Value} {name : String} (h : v.isKeyed = true)
    (hx : Member.find? v name = some x) : x.isKeyed = true := by
  unfold Member.find? at hx
  simp only at hx
  split at hx
  · cases hx
    rfl
  split at hx
  · exact isKeyed_dictionary h hx
  repeat' split at hx
  all_goals
    cases hx
    try rfl

theorem isKeyed_patternPart {p : Pattern} {x : Value} {name : String}
    (hx : patternPart? p name = some x) : x.isKeyed = true := by
  unfold patternPart? at hx
  split at hx <;> cases hx
  all_goals try rfl
  split
  · rfl
  · refine entriesKeyed_iff.2 fun e he => ?_
    obtain ⟨n, -, rfl⟩ := List.mem_map.1 he
    exact ⟨rfl, rfl⟩

theorem isKeyed_momentPart {m : Moment} {x : Value} {name : String}
    (hx : momentPart? m name = some x) : x.isKeyed = true := by
  unfold momentPart? at hx
  split at hx <;> cases hx
  all_goals try rfl
  cases m.offset <;> rfl

theorem isKeyed_urlPart {u : Url} {x : Value} {name : String} (hx : urlPart? u name = some x) :
    x.isKeyed = true := by
  have optional (s : Option String) : isKeyed ((s.map Value.text).getD .null) = true := by
    cases s <;> rfl
  unfold urlPart? at hx
  split at hx <;> cases hx
  all_goals first | rfl | exact optional _ | cases u.port <;> rfl

theorem isKeyed_pointerPart {c : String} {id : Value} {db : Option String}
    {extras : List (String × Value)} {x : Value} {name : String}
    (h : isKeyed (.dbRef c id db extras) = true)
    (hx : ownAttribute? (.dbRef c id db extras) name = some x) : x.isKeyed = true := by
  rw [isKeyed, Bool.and_eq_true] at h
  simp only [ownAttribute?] at hx
  split at hx
  · cases hx
    rfl
  · cases hx
    exact h.1
  · cases hx
    cases db <;> rfl
  · exact isKeyed_of_lookup h.2 hx

/-- The parts of objects, pointers and code are keyed with them; those of other values have no keys
    or have texts as keys. -/
theorem isKeyed_ownAttribute {v x : Value} {name : String} (h : v.isKeyed = true)
    (hx : v.ownAttribute? name = some x) : x.isKeyed = true := by
  cases v with
  | record fs => exact isKeyed_of_lookup h hx
  | entity s fs => exact isKeyed_of_lookup h hx
  | dbRef => exact isKeyed_pointerPart h hx
  | code s scope =>
    simp only [ownAttribute?] at hx
    split at hx <;> cases hx
    exact h
  | moment m => exact isKeyed_momentPart hx
  | url s => exact isKeyed_urlPart hx
  | regex compiled p f =>
    cases compiled with
    | true =>
      obtain ⟨pattern, -, hpart⟩ := Option.bind_eq_some_iff.1 hx
      exact isKeyed_patternPart hpart
    | false =>
      simp only [ownAttribute?] at hx
      split at hx <;> cases hx <;> rfl
  | objectId o =>
    simp only [ownAttribute?] at hx
    split at hx
    · cases hx
      rfl
    · obtain ⟨m, -, rfl⟩ := Option.map_eq_some_iff.1 hx
      rfl
    · contradiction
  | bytes subtype bs =>
    cases subtype with
    | none => contradiction
    | some t =>
      simp only [ownAttribute?] at hx
      split at hx <;> cases hx
      rfl
  | duration n =>
    simp only [ownAttribute?, durationPart?] at hx
    split at hx <;> cases hx <;> rfl
  | _ =>
    -- Parts of numbers and names of kinds; the values that are left have no parts.
    simp only [ownAttribute?, wholePart?] at hx
    try split at hx
    all_goals first | contradiction | (cases hx; rfl)

theorem isKeyed_attribute {v x : Value} {name : String} (h : v.isKeyed = true)
    (hx : v.attribute? name = some x) : x.isKeyed = true := by
  rcases attribute?_eq_some hx with hown | ⟨n, rfl⟩ | hmember
  · exact isKeyed_ownAttribute h hown
  · rfl
  · exact isKeyed_member h hmember

theorem isKeyed_add {v w x : Value} (hv : v.isKeyed = true) (hw : w.isKeyed = true)
    (hx : apply .add v w = .ok x) : x.isKeyed = true := by
  cases sumOf_add hx with
  | int | float | text | bytes => rfl
  | list xs ys | tuple xs ys =>
    exact allKeyed_iff.2 (List.forall_mem_append.2 ⟨allKeyed_iff.1 hv, allKeyed_iff.1 hw⟩)
  | time _ h => cases x <;> first | rfl | contradiction

theorem isPassedOn_isKeyed : Expr.IsPassedOn fun v => v.isKeyed = true where
  literal h := by cases h <;> rfl
  entry {v es e} h hes he := by
    cases v <;> cases hes <;> exact (entriesKeyed_iff.1 h e he).2
  item {v x xs} h hxs hx := by
    cases v with
    | list ys | tuple ys =>
      cases hxs
      exact allKeyed_iff.1 h x hx
    | bytes s bs =>
      cases hxs
      obtain ⟨b, -, rfl⟩ := List.mem_map.1 hx
      rfl
    | _ => contradiction
  part := isKeyed_attribute
  sum := isKeyed_add

/-! ### Decoded documents -/

/-- If the value is a mapping, it is a document. -/
def HasKeys (v : Value) : Prop := ∀ es, v.entries? = some es → ∀ e ∈ es, e.1.hashable = true

theorem HasKeys.isDocument {v : Value} (h : v.HasKeys) (hv : v.isMapping = true) :
    IsDocument v := by
  obtain ⟨es, hes⟩ := Option.isSome_iff_exists.1 hv
  exact ⟨es, hes, h es hes⟩

theorem hasKeys_of_isAtom {v : Value} (h : v.isAtom = true) : v.HasKeys := by
  intro es hes
  cases v <;> contradiction

/-- The stored form of a mapping has its keys, that of an object has texts. -/
theorem hasKeys_stored {v : Value} (h : v.isKeyed = true) : v.stored.HasKeys := by
  have kept (es : Entries) (hes : entriesKeyed es = true) :
      ∀ e ∈ storedEntries es, e.1.hashable = true := by
    induction es with
    | nil => exact List.forall_mem_nil _
    | cons e es ih =>
      rw [entriesKeyed_iff, List.forall_mem_cons, ← entriesKeyed_iff] at hes
      exact List.forall_mem_cons.2 ⟨hes.1.1, ih hes.2⟩
  intro es hes e he
  cases v with
  | map fs | mapping _ fs =>
    cases hes
    exact kept fs h e he
  | entity s fs =>
    rw [stored] at hes
    split at hes <;> cases hes
    obtain ⟨f, -, rfl⟩ := List.mem_map.1 he
    rfl
  | _ => contradiction

theorem isBuiltUp_hasKeys : IsBuiltUp HasKeys where
  atom := hasKeys_of_isAtom
  list _ es hes := by contradiction
  document {es v} h hv := by
    have keys : ∀ e ∈ es, e.1.hashable = true := by
      intro e he
      obtain ⟨⟨s, hs⟩, -⟩ := h e he
      rw [hs]
      rfl
    cases hv with
    | itself => exact fun fs hfs => Option.some.inj hfs ▸ keys
    | atom hv => exact hasKeys_of_isAtom hv
    | expression =>
      intro fs hfs
      cases hfs
      simp [hashable]

end Value

theorem Binding.Holds.brings {b : Binding} (hb : b.Holds fun v => v.isKeyed = true) :
    b.Brings b.Coherent Value.HasKeys where
  parameter n := (Value.isPassedOn_isKeyed.parameter hb n).mono fun _ => Value.hasKeys_stored
  evaluate source :=
    (hb.evaluate Value.isPassedOn_isKeyed source).mono fun _ => Value.hasKeys_stored

namespace Property

/-- The filter of a reference that exists is a document. -/
theorem branch_givesDocument (p : Property) (l : Lookup) {v : Value} (hv : v.isKeyed = true) :
    Gives (p.branch l v) IsDocument := by
  have brings := (p.holds_binding hv).brings
  refine (gives_branch brings (Binding.coherent_fresh _) Value.isBuiltUp_hasKeys).mono ?_
  rintro b ⟨hmap, hkeys⟩
  exact hkeys.isDocument hmap

theorem isDocument_branches {p : Property} {l : Lookup} {vs bs : List Value}
    (hvs : ∀ v ∈ vs, v.isKeyed = true) (hbs : p.branches l vs = .ok bs) :
    ∀ b ∈ bs, IsDocument b :=
  gives_branches (fun v hv => p.branch_givesDocument l (hvs v hv)) bs hbs

end Property

end LinkedDocs
