import LinkedDocs.Entity.Catalog
import LinkedDocs.Entity.Conversion
import LinkedDocs.Proofs.Members

/-! What a constructor is called with.

    A document's fields reach the constructor on two paths. If the document has an identifier, the
    identifier fields are filled first, with the values as they are; every other declared field is
    filled with what the document has under its name, and only here does a naive moment become an
    aware one. So an identifier that is a naive moment stays naive, although the converter is to
    make naive moments aware. Nothing else of the document plays a part. -/

namespace LinkedDocs.Conversion

open Value (Entries)

/-- A document with the given fields: each name is the key of one entry. -/
structure HasFields (doc : Value) (fields : List (String × Value)) : Prop where
  entries : doc.entries? = some (textEntries fields)
  distinct : (fields.map (·.1)).Nodup

/-- The document's identifier; null is none. -/
def identifier? (fields : List (String × Value)) : Option Value :=
  (fields.lookup "_id").filter (!·.isNull)

/-- How a value reaches the constructor: a naive moment becomes the aware one of the same clock
    time, any other value stays as it is. -/
inductive Arrives : Value → Value → Prop
  | naive (m : Moment) (h : m.offset = none) :
      Arrives (.moment m) (.moment { m with offset := some 0 })
  | same (v : Value) (h : ∀ m, v = .moment m → m.offset ≠ none) : Arrives v v

/-- Whether a conversion to a class with these fields looks at the document's field. -/
def regards (declared : List String) (field : String × Value) : Bool :=
  field.1 ∈ "_id" :: declared

variable {ids : IdFields} {declared : List String} {doc : Value} {fields : List (String × Value)}
  {f : String}

/-! ### Lookups by name -/

theorem lookup_eq_some_iff_mem (distinct : (fields.map (·.1)).Nodup) {v : Value} :
    fields.lookup f = some v ↔ (f, v) ∈ fields := by
  rw [List.lookup_eq_some_iff]
  constructor
  · rintro ⟨front, rest, rfl, -⟩
    exact List.mem_append_right _ List.mem_cons_self
  · intro hmem
    obtain ⟨front, rest, rfl⟩ := List.append_of_mem hmem
    refine ⟨front, rest, rfl, fun e he => bne_iff_ne.2 fun same => ?_⟩
    rw [List.map_append, List.map_cons, List.nodup_append] at distinct
    exact distinct.2.2 e.1 (List.mem_map_of_mem he) f List.mem_cons_self same.symm

@[simp] theorem get?_textEntries (fields : List (String × Value)) (f : String) :
    Entries.get? (textEntries fields) (.text f) = fields.lookup f := by
  unfold textEntries
  induction fields with
  | nil => rfl
  | cons e fields ih =>
    rw [List.map_cons, Entries.get?, List.find?_cons, List.lookup_cons, equal_text]
    cases f == e.1
    · exact ih
    · rfl

/-- Values looked up for a list of names, under the same names. -/
theorem lookup_filterMap (names : List String) (value : String → Option Value) (f : String) :
    (names.filterMap fun n => (value n).map fun v => (n, v)).lookup f =
      if f ∈ names then value f else none := by
  induction names with
  | nil => rfl
  | cons n names ih =>
    rw [List.filterMap_cons]
    by_cases hf : f = n
    · subst hf
      cases hv : value f with
      | none => simp [ih, hv]
      | some v => simp
    · have other : (f == n) = false := beq_eq_false_iff_ne.2 hf
      cases hv : value n <;> simp [ih, hf, List.lookup_cons, other]

theorem map_fst_filterMap (names : List String) (value : String → Option Value) :
    (names.filterMap fun n => (value n).map fun v => (n, v)).map (·.1) =
      names.filter fun n => (value n).isSome := by
  induction names with
  | nil => rfl
  | cons n names ih => cases hv : value n <;> simp [hv, ih]

theorem arrives_universal (v : Value) : Arrives v (universal v) := by
  unfold universal
  split
  · next m =>
    split
    · next h => exact .naive m (Option.isNone_iff_eq_none.1 h)
    · next h => exact .same _ fun _ hm => by cases hm; exact fun none => h (by rw [none]; rfl)
  · next h => exact .same v fun m hm => absurd hm (h m)

/-! ### The two paths -/

theorem idArguments_textEntries : idArguments ids declared (textEntries fields) =
    match identifier? fields with
    | none => []
    | some id =>
      (if ids.database ∈ declared then [(ids.database, id)] else []) ++
      (if ids.application ≠ ids.database ∧ ids.application ∈ declared then
        [(ids.application, (fields.lookup ids.application).getD id)] else []) := by
  rw [idArguments, identifier?, idKey]
  simp only [get?_textEntries]
  split
  · next h => rw [h]; rfl
  · next h => rw [h]; rfl
  · next id hnull h =>
    have given : id.isNull = false := by cases id <;> first | rfl | exact absurd rfl hnull
    rw [h, Option.filter_some, given]
    rfl

/-- What an identifier field gets from a document with an identifier, before the other fields. -/
def pinned? (ids : IdFields) (fields : List (String × Value)) (f : String) : Option Value :=
  (identifier? fields).bind fun id =>
    if f = ids.database then some id
    else if f = ids.application then some ((fields.lookup f).getD id)
    else none

theorem lookup_ite_singleton {p : Prop} [Decidable p] (n f : String) (v : Value) :
    (if p then [(n, v)] else []).lookup f = if p ∧ f = n then some v else none := by
  by_cases hp : p
  · by_cases hf : f = n
    · simp [hp, hf]
    · have other : (f == n) = false := beq_eq_false_iff_ne.2 hf
      simp [hp, hf, List.lookup_cons, other]
  · simp [hp]

theorem lookup_idArguments (f : String) :
    (idArguments ids declared (textEntries fields)).lookup f =
      if f ∈ declared then pinned? ids fields f else none := by
  rw [idArguments_textEntries, pinned?]
  cases identifier? fields with
  | none => simp
  | some id =>
    rw [List.lookup_append, lookup_ite_singleton, lookup_ite_singleton, Option.bind_some]
    by_cases hd : f ∈ declared
    · by_cases hdb : f = ids.database
      · subst hdb
        simp [hd]
      · by_cases happ : f = ids.application
        · subst happ
          simp [hd, hdb]
        · simp [hdb, happ]
    · have undeclared (n : String) : ¬(n ∈ declared ∧ f = n) := fun h => hd (h.2 ▸ h.1)
      rw [if_neg (undeclared _), if_neg fun h => undeclared _ ⟨h.1.2, h.2⟩, if_neg hd]
      rfl

theorem fieldArguments_textEntries (given : Arguments) :
    fieldArguments given declared (textEntries fields) =
      declared.filterMap fun n =>
        (if (given.lookup n).isSome then none else (fields.lookup n).map universal).map
          fun v => (n, v) := by
  unfold fieldArguments
  refine congrArg (declared.filterMap ·) (funext fun n => ?_)
  rw [get?_textEntries]
  cases (given.lookup n).isSome
  · cases fields.lookup n <;> rfl
  · rfl

/-- A declared field gets what is pinned to it, else what the document has under its name; an
    undeclared one gets nothing. -/
theorem lookup_arguments (ids : IdFields) (declared : List String)
    (fields : List (String × Value)) (f : String) :
    (arguments ids declared (textEntries fields)).lookup f =
      if f ∈ declared then (pinned? ids fields f).or ((fields.lookup f).map universal)
      else none := by
  simp only [arguments]
  rw [List.lookup_append, fieldArguments_textEntries, lookup_filterMap, lookup_idArguments]
  by_cases hd : f ∈ declared
  · rw [if_pos hd, if_pos hd, if_pos hd]
    cases pinned? ids fields f <;> rfl
  · rw [if_neg hd, if_neg hd, if_neg hd]
    rfl

/-! ### Which fields are filled -/

theorem arguments_declared {a : String × Value}
    (h : a ∈ arguments ids declared (textEntries fields)) : a.1 ∈ declared := by
  by_contra hd
  have none := lookup_arguments ids declared fields a.1
  rw [if_neg hd, List.lookup_eq_none_iff] at none
  exact bne_iff_ne.1 (none a h) rfl

/-- No field is filled twice. -/
theorem arguments_nodup (ids : IdFields) (fields : List (String × Value)) (h : declared.Nodup) :
    ((arguments ids declared (textEntries fields)).map (·.1)).Nodup := by
  simp only [arguments]
  rw [List.map_append, fieldArguments_textEntries, map_fst_filterMap, List.nodup_append]
  refine ⟨?_, h.filter _, ?_⟩
  · rw [idArguments_textEntries]
    cases identifier? fields with
    | none => exact List.nodup_nil
    | some id =>
      by_cases happ : ids.application ≠ ids.database ∧ ids.application ∈ declared
      · by_cases hdb : ids.database ∈ declared <;> simp [happ, hdb, Ne.symm happ.1]
      · by_cases hdb : ids.database ∈ declared <;> simp [happ, hdb]
  · rintro n hn n' hn' rfl
    obtain ⟨a, ha, rfl⟩ := List.mem_map.1 hn
    have given := List.lookup_isSome_iff.2 ⟨a, ha, beq_self_eq_true a.1⟩
    have open' := (List.mem_filter.1 hn').2
    rw [if_pos given] at open'
    contradiction

/-! ### What the outcome depends on -/

theorem HasFields.lookup_congr {doc' : Value} {fields' : List (String × Value)}
    (h : HasFields doc fields) (h' : HasFields doc' fields')
    (same : (fields'.filter (regards declared)).Perm (fields.filter (regards declared)))
    (hf : f ∈ "_id" :: declared) : fields'.lookup f = fields.lookup f := by
  refine Option.ext fun v => ?_
  have kept : regards declared (f, v) = true := decide_eq_true hf
  have hmem := same.mem_iff (a := (f, v))
  rw [List.mem_filter, List.mem_filter, and_iff_left kept, and_iff_left kept] at hmem
  rw [lookup_eq_some_iff_mem h.distinct, lookup_eq_some_iff_mem h'.distinct, hmem]

/-- The arguments are made of the values that the document has for the declared fields and for the
    identifier. -/
theorem arguments_congr {fields' : List (String × Value)}
    (h : ∀ f ∈ "_id" :: declared, fields'.lookup f = fields.lookup f) :
    arguments ids declared (textEntries fields') = arguments ids declared (textEntries fields) := by
  have hid : identifier? fields' = identifier? fields := by
    rw [identifier?, h _ List.mem_cons_self, identifier?]
  have hpinned : idArguments ids declared (textEntries fields') =
      idArguments ids declared (textEntries fields) := by
    rw [idArguments_textEntries, idArguments_textEntries, hid]
    by_cases happ : ids.application ∈ declared
    · rw [h _ (List.mem_cons_of_mem _ happ)]
    · simp only [happ, and_false, if_false]
  simp only [arguments]
  rw [hpinned, fieldArguments_textEntries, fieldArguments_textEntries]
  refine congrArg _ (List.filterMap_congr fun n hn => ?_)
  rw [h n (List.mem_cons_of_mem _ hn)]

/-- The constructor is called with the arguments. -/
theorem convert_entity (property : String) (target : EntityType) (hd : target.declared ≠ [])
    (hdoc : HasFields doc fields) : convert ids property (.entity target) doc =
      match target.instantiate (arguments ids target.declared (textEntries fields)) with
      | some v => .ok v
      | none => .error (.notConvertible target.shape.name) := by
  have hnull : doc.isNull = false := by
    cases doc <;> first | rfl | cases hdoc.entries
  have hfields : target.declared.isEmpty = false := List.isEmpty_eq_false_iff.2 hd
  cases h : target.instantiate (arguments ids target.declared (textEntries fields)) <;>
    simp only [convert, hnull, hfields, hdoc.entries, h, Bool.false_eq_true, if_false]

/-- A class that declares fields is called for a document with text keys, with arguments for
    declared fields only, each one once. A declared field gets what the document has under its
    name, and a naive moment arrives as the aware one of the same clock time; but if the document
    has an identifier, then the identifier fields get the identifier, or what the document has
    under the application's name for it, and these values arrive as they are, naive moments, too.
    Fields that are not declared have no influence, nor has the order of the document's keys. -/
theorem constructor_gets_declared_fields (ids : IdFields) (shape : Shape) (declared : List String)
    (hd : declared ≠ []) (hdoc : HasFields doc fields) :
    ∃ args : Arguments,
      (∀ property build, convert ids property (.entity ⟨shape, declared, build⟩) doc =
        match build args with
        | some fs => .ok (.entity shape fs)
        | none => .error (.notConvertible shape.name)) ∧
      (∀ a ∈ args, a.1 ∈ declared) ∧
      (declared.Nodup → (args.map (·.1)).Nodup) ∧
      (∀ f ∈ declared, identifier? fields = none ∨ (f ≠ ids.application ∧ f ≠ ids.database) →
        Option.Rel Arrives (fields.lookup f) (args.lookup f)) ∧
      (∀ id, identifier? fields = some id →
        (ids.database ∈ declared → args.lookup ids.database = some id) ∧
        (ids.application ∈ declared → ids.application ≠ ids.database →
          args.lookup ids.application = some ((fields.lookup ids.application).getD id))) ∧
      ∀ doc' fields', HasFields doc' fields' →
        (fields'.filter (regards declared)).Perm (fields.filter (regards declared)) →
        ∀ property build, convert ids property (.entity ⟨shape, declared, build⟩) doc' =
          convert ids property (.entity ⟨shape, declared, build⟩) doc := by
  refine ⟨arguments ids declared (textEntries fields), fun property build => ?_,
    fun a => arguments_declared, arguments_nodup ids fields, fun f hf free => ?_,
    fun id hid => ⟨fun hdb => ?_, fun happ apart => ?_⟩, fun doc' fields' hdoc' same => ?_⟩
  · rw [convert_entity property _ hd hdoc, EntityType.instantiate]
    cases hb : build (arguments ids declared (textEntries fields)) <;> simp only [hb, Option.map]
  · have unpinned : pinned? ids fields f = none := by
      rw [pinned?]
      rcases free with hid | ⟨happ, hdb⟩
      · rw [hid]; rfl
      · simp only [if_neg hdb, if_neg happ, Option.bind_fun_none]
    rw [lookup_arguments, if_pos hf, unpinned, Option.none_or]
    cases fields.lookup f with
    | none => exact .none
    | some v => exact .some (arrives_universal v)
  · rw [lookup_arguments, if_pos hdb, pinned?, hid, Option.bind_some, if_pos rfl]
    rfl
  · rw [lookup_arguments, if_pos happ, pinned?, hid, Option.bind_some, if_neg apart, if_pos rfl]
    rfl
  · intro property build
    rw [convert_entity property _ hd hdoc, convert_entity property _ hd hdoc',
      arguments_congr fun f => hdoc.lookup_congr hdoc' same]

/-! An author of whom only dates are known. -/

namespace Dated

def birthday : Moment := ⟨1990, 5, 1, 0, 0, 0, 0, none⟩

def known : List (String × Value) :=
  [("rank", .int 3), ("born", .moment birthday), ("_id", .moment birthday)]

def document : Value := .map (textEntries known)

theorem hasFields : HasFields document known := ⟨rfl, by decide⟩

/-- The day of birth arrives in universal time, and the rank is not asked for. -/
theorem author_gets_declared_fields : HasFields document known ∧ ∃ args : Arguments,
    (∀ a ∈ args, a.1 ∈ EntityType.Catalog.author.declared) ∧
    args.lookup "born" = some (.moment birthday.atUniversal) ∧ args.lookup "name" = none ∧
    args.lookup "id" = some (.moment birthday) := by
  refine ⟨hasFields, ?_⟩
  obtain ⟨args, -, declared, -, free, pinned, -⟩ := constructor_gets_declared_fields .standard
    EntityType.Catalog.author.shape EntityType.Catalog.author.declared (by decide) hasFields
  refine ⟨args, declared, ?_, ?_, (pinned (.moment birthday) rfl).2 (by decide) (by decide)⟩
  · have born := free "born" (by decide) (.inr (by decide))
    generalize args.lookup "born" = arrived at born ⊢
    cases born with
    | some h =>
      cases h with
      | naive m => rfl
      | same _ aware => exact absurd rfl (aware birthday rfl)
  · have name := free "name" (by decide) (.inr (by decide))
    generalize args.lookup "name" = arrived at name ⊢
    cases name
    rfl

/-- The identifier does not become aware. -/
theorem naive_identifier_stays_naive :
    convert .standard "author" (.entity EntityType.Catalog.author) document =
        .ok (.entity EntityType.Catalog.author.shape
          [("id", .moment birthday), ("name", .text ""), ("born", .moment birthday.atUniversal)]) ∧
      ¬∃ args : Arguments,
        (∀ build,
          convert .standard "author" (.entity { EntityType.Catalog.author with build }) document =
          match build args with
          | some fs => .ok (.entity EntityType.Catalog.author.shape fs)
          | none => .error (.notConvertible EntityType.Catalog.author.shape.name)) ∧
        ∃ v, args.lookup "id" = some v ∧ Arrives (.moment birthday) v := by
  constructor
  · with_unfolding_all rfl
  · rintro ⟨args, calls, v, hv, arrives⟩
    have given : args = [("id", .moment birthday), ("born", .moment birthday.atUniversal)] := by
      have called := (calls some).symm
      rw [convert_entity _ _ (by decide) hasFields] at called
      cases called
      rfl
    rw [given] at hv
    cases hv
    cases arrives with
    | same _ aware => exact aware birthday rfl rfl

end Dated

end LinkedDocs.Conversion
