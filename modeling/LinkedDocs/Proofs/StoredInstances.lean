import LinkedDocs.Proofs.ConstructorArguments
import LinkedDocs.Value.Stored

/-! From an instance to its stored form and back.

    The stored form has an instance's fields under their stored names, while the conversion asks for
    them under the names that the class declares. So a field comes back if both names are one, or if
    it is the identifier, which is not null; a field that is stored under a name of its own is not
    found and gets its default. An instance comes back exactly if all its fields come back or hold
    their defaults. -/

namespace LinkedDocs

open Conversion

/-! ### Classes made of fields -/

/-- How a class fills one of its fields. -/
structure FieldRule where
  name : String
  /-- The name it is stored under, if that is another one. -/
  storedAs : Option String
  /-- What the field holds for a given value, unless the value is refused. -/
  accept : Value → Option Value
  /-- What the field holds when no value is given, unless one has to be. -/
  default : Option Value

namespace FieldRule

def storedName (r : FieldRule) : String := r.storedAs.getD r.name

/-- The field's value: the argument under its stored name, else under its own, else the default. -/
def value (r : FieldRule) (args : Arguments) : Option Value :=
  match (r.storedAs.bind fun a => args.lookup a) <|> args.lookup r.name with
  | some v => r.accept v
  | none => r.default

/-- What a field holds is a value that it takes, and takes as it is. -/
structure Lawful (r : FieldRule) : Prop where
  accept_again : ∀ {v w}, r.accept v = some w → r.accept w = some w
  accept_default : ∀ {d}, r.default = some d → r.accept d = some d

/-- Whether the field's value is found in the stored form of its instance. -/
def survives (r : FieldRule) (v : Value) : Bool :=
  r.storedName == r.name || (r.name == "id" && r.storedName == "_id" && !v.isNull)

theorem Lawful.accept_value {r : FieldRule} (h : r.Lawful) {args : Arguments} {v : Value}
    (hv : r.value args = some v) : r.accept v = some v := by
  unfold value at hv
  split at hv
  · exact h.accept_again hv
  · exact h.accept_default hv

end FieldRule

/-- The fields of an instance, each with a value. -/
def fieldsOf (rules : List FieldRule) (value : FieldRule → Option Value) : Option Arguments :=
  rules.mapM fun r => (value r).map fun v => (r.name, v)

/-- The fields of the class, in order, each filled by its own rule. Arguments that name no field
    may be refused. A class whose constructor does not take all its fields, takes what is no field,
    or changes the fields once they are filled is none of these. -/
structure EntityType.MadeOf (T : EntityType) (rules : List FieldRule) : Prop where
  form : T.shape.form = .model ∨ T.shape.form = .structural
  declared : T.declared = rules.map (·.name)
  fields : T.shape.fields = rules.map (·.name)
  stored : ∀ r ∈ rules,
    (if T.shape.form == .model then T.shape.storedName r.name else r.name) = r.storedName
  lawful : ∀ r ∈ rules, r.Lawful
  build : ∀ args, T.build args = fieldsOf rules (·.value args) ∨
    T.build args = none ∧ ∃ a ∈ args, a.1 ∉ T.declared

/-- Whether a conversion takes the key of a document for the field's. -/
def Answers (key name : String) : Prop := key = name ∨ key = "_id" ∧ name = "id"

instance (key name : String) : Decidable (Answers key name) :=
  inferInstanceAs (Decidable (key = name ∨ key = "_id" ∧ name = "id"))

/-- No two fields have one name or are stored under one, and a field that is stored under another
    name than its own does not find there what is another field's. -/
structure Unmixed (rules : List FieldRule) : Prop where
  names : (rules.map (·.name)).Nodup
  storedNames : (rules.map (·.storedName)).Nodup
  own : ∀ r ∈ rules, ∀ r' ∈ rules, Answers r.storedName r'.name →
    r.name = r'.name ∨ r'.storedName = r'.name

/-- The fields of the instance that a conversion makes of a stored one: those that survive as they
    were, the others with their defaults. -/
def restored (rules : List FieldRule) (fs : Arguments) : Option Arguments :=
  fieldsOf rules fun r => ((fs.lookup r.name).filter r.survives).or r.default

variable {rules : List FieldRule} {T : EntityType} {v : FieldRule → Value} {r : FieldRule}

theorem fieldsOf_eq_some {value : FieldRule → Option Value} {fs : Arguments} :
    fieldsOf rules value = some fs ↔
      ∃ v : FieldRule → Value, (∀ r ∈ rules, value r = some (v r)) ∧
        fs = rules.map fun r => (r.name, v r) := by
  constructor
  · intro h
    refine ⟨fun r => (value r).getD .null, ?_⟩
    induction rules generalizing fs with
    | nil =>
      cases h
      exact ⟨List.forall_mem_nil _, rfl⟩
    | cons r rules ih =>
      rw [fieldsOf, List.mapM_cons] at h
      obtain ⟨f, hf, h⟩ := Option.bind_eq_some_iff.mp h
      obtain ⟨rest, hrest, h⟩ := Option.bind_eq_some_iff.mp h
      obtain ⟨x, hx, rfl⟩ := Option.map_eq_some_iff.mp hf
      obtain ⟨hvalues, rfl⟩ := ih hrest
      cases h
      exact ⟨List.forall_mem_cons.2 ⟨by simp only [hx, Option.getD_some], hvalues⟩,
        by simp only [hx, Option.getD_some, List.map_cons]⟩
  · rintro ⟨v, hv, rfl⟩
    induction rules with
    | nil => rfl
    | cons r rules ih =>
      rw [List.forall_mem_cons] at hv
      rw [fieldsOf, List.mapM_cons, hv.1, ← fieldsOf, ih hv.2]
      rfl

theorem fieldsOf_congr {f g : FieldRule → Option Value} (h : ∀ r ∈ rules, f r = g r) :
    fieldsOf rules f = fieldsOf rules g := by
  refine Option.ext fun fs => ?_
  rw [fieldsOf_eq_some, fieldsOf_eq_some]
  refine exists_congr fun v => and_congr_left' (forall₂_congr fun r hr => ?_)
  rw [h r hr]

/-- What the fields of an instance hold. -/
theorem EntityType.MadeOf.exists_values (made : T.MadeOf rules) {given fs : Arguments}
    (built : T.build given = some fs) :
    ∃ v : FieldRule → Value, (∀ r ∈ rules, r.accept (v r) = some (v r)) ∧
      fs = rules.map fun r => (r.name, v r) := by
  have filled : fieldsOf rules (·.value given) = some fs := by
    rcases made.build given with h | ⟨h, -⟩
    · rw [← h, built]
    · rw [h] at built
      cases built
  obtain ⟨v, values, rfl⟩ := fieldsOf_eq_some.1 filled
  exact ⟨v, fun r hr => (made.lawful r hr).accept_value (values r hr), rfl⟩

theorem Unmixed.of_storedName (names : (rules.map (·.name)).Nodup)
    (own : ∀ r ∈ rules, r.storedName = r.name) : Unmixed rules where
  names := names
  storedNames := by rwa [List.map_congr_left own]
  own _ _ r' hr' _ := .inr (own r' hr')

/-! ### Models and records -/

namespace EntityType

theorem acceptText_again {v w : Value} (h : acceptText v = some w) : acceptText w = some w := by
  unfold acceptText at h
  split at h <;> obtain ⟨s, -, rfl⟩ := Option.map_eq_some_iff.1 h <;> rfl

theorem mapM_acceptText_again {xs ys : List Value} (h : xs.mapM acceptText = some ys) :
    ys.mapM acceptText = some ys := by
  induction xs generalizing ys with
  | nil =>
    cases h
    rfl
  | cons x xs ih =>
    rw [List.mapM_cons] at h
    obtain ⟨y, hy, h⟩ := Option.bind_eq_some_iff.mp h
    obtain ⟨rest, hrest, h⟩ := Option.bind_eq_some_iff.mp h
    cases h
    rw [List.mapM_cons, acceptText_again hy, ih hrest]
    rfl

/-- A checked field takes what it holds. -/
theorem Check.accept_again (c : Check) {v w : Value} (h : c.accept v = some w) :
    c.accept w = some w := by
  cases c with
  | anything => rfl
  | text => exact acceptText_again h
  | optionalText =>
    simp only [accept] at h ⊢
    split at h
    · cases h
      rfl
    · rw [acceptText_again h]
      split
      · next null => cases w <;> first | rfl | cases null
      · rfl
  | texts =>
    simp only [accept] at h
    split at h
    case h_4 => cases h
    all_goals
      obtain ⟨ys, hys, rfl⟩ := Option.map_eq_some_iff.1 h
      simp only [accept, mapM_acceptText_again hys, Option.map_some]

def Field.rule (f : Field) : FieldRule := ⟨f.name, f.storedName, f.check.accept, some f.default⟩

theorem lookup_aliases {fields : List Field} (h : (fields.map Field.name).Nodup) {f : Field}
    (hf : f ∈ fields) :
    (fields.filterMap fun f => f.storedName.map fun a => (f.name, a)).lookup f.name =
      f.storedName := by
  induction fields with
  | nil => cases hf
  | cons g fields ih =>
    rw [List.map_cons, List.nodup_cons] at h
    rw [List.filterMap_cons]
    rcases List.mem_cons.1 hf with rfl | hf
    · cases ha : f.storedName with
      | some a => simp
      | none =>
        refine List.lookup_eq_none_iff.2 fun e he => bne_iff_ne.2 fun same => h.1 ?_
        obtain ⟨g, hg, a⟩ := List.mem_filterMap.1 he
        obtain ⟨a, -, rfl⟩ := Option.map_eq_some_iff.1 a
        rw [same]
        exact List.mem_map_of_mem hg
    · have other : (f.name == g.name) = false :=
        beq_eq_false_iff_ne.2 fun same => h.1 (same ▸ List.mem_map_of_mem hf)
      cases g.storedName <;> simp [List.lookup_cons, other, ih h.2 hf]

/-- A model whose defaults pass their own checks. -/
theorem model_madeOf (name : String) {fields : List Field} (names : (fields.map Field.name).Nodup)
    (defaults : ∀ f ∈ fields, f.check.accept f.default = some f.default) :
    (model name fields).MadeOf (fields.map Field.rule) where
  form := .inl rfl
  declared := by rw [List.map_map]; rfl
  fields := by rw [List.map_map]; rfl
  stored := by
    rintro r hr
    obtain ⟨f, hf, rfl⟩ := List.mem_map.1 hr
    exact congrArg (·.getD f.name) (lookup_aliases names hf)
  lawful := by
    rintro r hr
    obtain ⟨f, hf, rfl⟩ := List.mem_map.1 hr
    exact ⟨f.check.accept_again, fun hd => by cases hd; exact defaults f hf⟩
  build args := .inl (by rw [fieldsOf, List.mapM_map]; rfl)

def parameterRule (p : String × Option Value) : FieldRule := ⟨p.1, none, some, p.2⟩

/-- A record with one parameter for each field. -/
theorem record_madeOf (name : String) (params : List (String × Option Value)) :
    (ofParameters name .structural params).MadeOf (params.map parameterRule) where
  form := .inr rfl
  declared := by rw [List.map_map]; rfl
  fields := by rw [List.map_map]; rfl
  stored := by
    rintro r hr
    obtain ⟨p, -, rfl⟩ := List.mem_map.1 hr
    rfl
  lawful := by
    rintro r hr
    obtain ⟨p, -, rfl⟩ := List.mem_map.1 hr
    exact ⟨fun _ => rfl, fun _ => rfl⟩
  build args := by
    by_cases known : args.all fun a => (params.lookup a.1).isSome
    · refine .inl ?_
      have value (p : String × Option Value) :
          (args.lookup p.1 <|> p.2) = (parameterRule p).value args := by
        simp only [FieldRule.value, parameterRule, Option.bind_none]
        cases args.lookup p.1 <;> rfl
      rw [fieldsOf, List.mapM_map]
      simp only [ofParameters, assign, if_pos known, value]
      rfl
    · refine .inr ⟨if_neg known, ?_⟩
      rw [List.all_eq_true] at known
      push Not at known
      obtain ⟨a, ha, unknown⟩ := known
      refine ⟨a, ha, fun declared => unknown ?_⟩
      obtain ⟨p, hp, same⟩ := List.mem_map.1 declared
      exact List.lookup_isSome_iff.2 ⟨p, hp, beq_iff_eq.2 same.symm⟩

end EntityType

/-! ### The stored form -/

/-- The instance's fields under the names they are stored under. -/
def storedUnder (rules : List FieldRule) (v : FieldRule → Value) : List (String × Value) :=
  rules.map fun r => (r.storedName, v r)

theorem storedAttributes_eq {fs : Arguments} (h : ∀ f ∈ fs, f.2.stored = f.2) :
    Value.storedAttributes fs = fs := by
  induction fs with
  | nil => rfl
  | cons f fs ih =>
    rw [List.forall_mem_cons] at h
    rw [Value.storedAttributes, h.1, ih h.2]

theorem EntityType.MadeOf.stored_entity (made : T.MadeOf rules)
    (compatible : ∀ r ∈ rules, (v r).stored = v r) :
    (Value.entity T.shape (rules.map fun r => (r.name, v r))).stored =
      .map (textEntries (storedUnder rules v)) := by
  have form : (T.shape.form == .model || T.shape.form == .structural) = true := by
    rcases made.form with h | h <;> rw [h] <;> rfl
  have unchanged : ∀ f ∈ rules.map fun r => (r.name, v r), f.2.stored = f.2 := by
    rintro f hf
    obtain ⟨r, hr, rfl⟩ := List.mem_map.1 hf
    exact compatible r hr
  rw [Value.stored, if_pos form, storedAttributes_eq unchanged, Value.storedFields, made.fields]
  congr 1
  rw [List.filter_eq_self.2 ?_, textEntries, storedUnder, List.map_map, List.map_map]
  · refine List.map_congr_left fun r hr => ?_
    simp only [Function.comp_apply, made.stored r hr]
  · rintro f hf
    obtain ⟨r, hr, rfl⟩ := List.mem_map.1 hf
    exact decide_eq_true (List.mem_map_of_mem hr)

theorem Unmixed.hasFields (unmixed : Unmixed rules) (v : FieldRule → Value) :
    HasFields (.map (textEntries (storedUnder rules v))) (storedUnder rules v) := by
  refine ⟨rfl, ?_⟩
  rw [storedUnder, List.map_map]
  exact unmixed.storedNames

theorem Unmixed.lookup_stored (unmixed : Unmixed rules) {key : String} {x : Value} :
    (storedUnder rules v).lookup key = some x ↔ ∃ r ∈ rules, r.storedName = key ∧ v r = x := by
  rw [lookup_eq_some_iff_mem (unmixed.hasFields v).distinct, storedUnder, List.mem_map]
  refine exists_congr fun r => and_congr_right' ?_
  rw [Prod.mk.injEq]

theorem Unmixed.lookup_name (unmixed : Unmixed rules) (hr : r ∈ rules) :
    (rules.map fun r => (r.name, v r)).lookup r.name = some (v r) := by
  refine (lookup_eq_some_iff_mem ?_).2 (List.mem_map_of_mem hr)
  rw [List.map_map]
  exact unmixed.names

theorem Unmixed.eq_of_name (unmixed : Unmixed rules) {r r' : FieldRule} (hr : r ∈ rules)
    (hr' : r' ∈ rules) (h : r.name = r'.name) : r = r' :=
  List.inj_on_of_nodup_map unmixed.names hr hr' h

/-- Under a field's own name stands the field, if anything. -/
theorem Unmixed.lookup_own (unmixed : Unmixed rules) (hr : r ∈ rules) :
    (storedUnder rules v).lookup r.name = if r.storedName = r.name then some (v r) else none := by
  split
  · next own => exact unmixed.lookup_stored.2 ⟨r, hr, own, rfl⟩
  · next apart =>
    refine Option.eq_none_iff_forall_ne_some.2 fun x hx => ?_
    obtain ⟨r', hr', hstored, -⟩ := unmixed.lookup_stored.1 hx
    rcases unmixed.own r' hr' r hr (.inl hstored) with same | own
    · exact apart (unmixed.eq_of_name hr' hr same ▸ hstored)
    · exact apart own

/-- Under the key of identifiers stands the identifier field, if it is stored under another name
    than its own and anything stands there. -/
theorem Unmixed.lookup_identifier (unmixed : Unmixed rules) (hr : r ∈ rules) (hid : r.name = "id")
    (apart : r.storedName ≠ r.name) : (storedUnder rules v).lookup "_id" =
      if r.storedName = "_id" then some (v r) else none := by
  split
  · next stored => exact unmixed.lookup_stored.2 ⟨r, hr, stored, rfl⟩
  · next other =>
    refine Option.eq_none_iff_forall_ne_some.2 fun x hx => ?_
    obtain ⟨r', hr', hstored, -⟩ := unmixed.lookup_stored.1 hx
    rcases unmixed.own r' hr' r hr (.inr ⟨hstored, hid⟩) with same | own
    · exact other (unmixed.eq_of_name hr' hr same ▸ hstored)
    · exact apart own

/-! ### The way back -/

theorem universal_eq_self {x : Value} (h : ∀ m, x = .moment m → m.offset ≠ none) :
    universal x = x := by
  unfold universal
  split
  · next m => rw [if_neg fun naive => h m rfl (Option.isNone_iff_eq_none.1 naive)]
  · rfl

/-- What the document has under a field's name reaches the field. -/
theorem argument_found {fields : List (String × Value)} {f : String} {x : Value}
    (hf : fields.lookup f = some x) (hx : universal x = x) :
    (pinned? .standard fields f).or ((fields.lookup f).map universal) = some x := by
  rw [pinned?, hf, Option.map_some, hx]
  cases hid : identifier? fields with
  | none => rfl
  | some id =>
    rw [Option.bind_some]
    split
    · next hdb =>
      subst hdb
      obtain ⟨h, -⟩ := Option.filter_eq_some_iff.1 hid
      rw [show fields.lookup "_id" = some x from hf] at h
      cases h
      rfl
    · split <;> rfl

/-- The argument for a field is its value, if that survives. -/
theorem argument_of_stored (unmixed : Unmixed rules) (hr : r ∈ rules)
    (aware : ∀ m, v r = .moment m → m.offset ≠ none) :
    (pinned? .standard (storedUnder rules v) r.name).or
        (((storedUnder rules v).lookup r.name).map universal) =
      (some (v r)).filter r.survives := by
  by_cases own : r.storedName = r.name
  · have found := unmixed.lookup_own (v := v) hr
    rw [if_pos own] at found
    have survives : r.survives (v r) = true := by
      rw [FieldRule.survives, own, beq_self_eq_true, Bool.true_or]
    rw [argument_found found (universal_eq_self aware), Option.filter_some, if_pos survives]
  · have missing := unmixed.lookup_own (v := v) hr
    rw [if_neg own] at missing
    have apart : (r.storedName == r.name) = false := beq_eq_false_iff_ne.2 own
    rw [missing, Option.map_none, Option.or_none, pinned?, missing, identifier?, Option.filter_some,
      FieldRule.survives, apart, Bool.false_or]
    simp only [Option.getD_none]
    by_cases hid : r.name = "id"
    · rw [unmixed.lookup_identifier hr hid own]
      by_cases stored : r.storedName = "_id"
      · cases hnull : (v r).isNull <;> simp [hid, stored, hnull, IdFields.standard]
      · simp [stored]
    · have other : (r.name == "id") = false := beq_eq_false_iff_ne.2 hid
      rw [other, Bool.false_and, Bool.false_and, if_neg Bool.false_ne_true]
      by_cases hdb : r.name = "_id"
      · rw [← hdb, missing]
        rfl
      · have unpinned : r.name ≠ IdFields.standard.database ∧
            r.name ≠ IdFields.standard.application := ⟨hdb, hid⟩
        simp only [if_neg unpinned.1, if_neg unpinned.2, Option.bind_fun_none]

/-- What a field is stored under is no name of another field, so an argument under it is the
    field's own. -/
theorem alias_is_own (unmixed : Unmixed rules) (hr : r ∈ rules) {a : String}
    (ha : r.storedAs = some a) (hd : a ∈ rules.map (·.name)) : a = r.name := by
  have stored : r.storedName = a := by rw [FieldRule.storedName, ha]; rfl
  obtain ⟨r', hr', rfl⟩ := List.mem_map.1 hd
  rcases unmixed.own r hr r' hr' (.inl stored) with same | own
  · exact same.symm
  · rw [List.inj_on_of_nodup_map unmixed.storedNames hr hr' (stored.trans own.symm)]

/-- A field is filled with its value, if that survives, else with its default. -/
theorem value_of_stored (unmixed : Unmixed rules) (hr : r ∈ rules)
    (aware : ∀ m, v r = .moment m → m.offset ≠ none) (accepted : r.accept (v r) = some (v r)) :
    r.value (arguments .standard (rules.map (·.name)) (textEntries (storedUnder rules v))) =
      ((some (v r)).filter r.survives).or r.default := by
  have byName := lookup_arguments .standard (rules.map (·.name)) (storedUnder rules v)
  generalize arguments .standard (rules.map (·.name)) (textEntries (storedUnder rules v)) = args
    at byName ⊢
  have byAlias : ((r.storedAs.bind fun a => args.lookup a) <|> args.lookup r.name) =
      args.lookup r.name := by
    cases ha : r.storedAs with
    | none => rfl
    | some a =>
      rw [Option.bind_some]
      by_cases hd : a ∈ rules.map (·.name)
      · rw [alias_is_own unmixed hr ha hd]
        cases args.lookup r.name <;> rfl
      · rw [byName a, if_neg hd]
        rfl
  rw [FieldRule.value, byAlias, byName, if_pos (List.mem_map_of_mem hr),
    argument_of_stored unmixed hr aware, Option.filter_some]
  cases r.survives (v r)
  · rfl
  · exact accepted

theorem restored_eq (unmixed : Unmixed rules) :
    restored rules (rules.map fun r => (r.name, v r)) =
      fieldsOf rules fun r => ((some (v r)).filter r.survives).or r.default :=
  fieldsOf_congr fun r hr => by rw [unmixed.lookup_name hr]

/-- The conversion fills the fields of a new instance with what is restored. -/
theorem convert_stored (made : T.MadeOf rules) (unmixed : Unmixed rules) (hne : rules ≠ [])
    (compatible : ∀ r ∈ rules, (v r).stored = v r)
    (aware : ∀ r ∈ rules, ∀ m, v r = .moment m → m.offset ≠ none)
    (accepted : ∀ r ∈ rules, r.accept (v r) = some (v r)) (property : String) :
    convert .standard property (.entity T)
        (Value.entity T.shape (rules.map fun r => (r.name, v r))).stored =
      match restored rules (rules.map fun r => (r.name, v r)) with
      | some fs => .ok (.entity T.shape fs)
      | none => .error (.notConvertible T.shape.name) := by
  have hd : T.declared ≠ [] := made.declared ▸ List.map_eq_nil_iff.not.2 hne
  have built : T.build (arguments .standard T.declared (textEntries (storedUnder rules v))) =
      restored rules (rules.map fun r => (r.name, v r)) := by
    rcases made.build _ with h | ⟨-, a, ha, undeclared⟩
    · rw [h, restored_eq unmixed, made.declared]
      exact fieldsOf_congr fun r hr => value_of_stored unmixed hr (aware r hr) (accepted r hr)
    · exact absurd (arguments_declared ha) undeclared
  rw [made.stored_entity compatible, convert_entity property T hd (unmixed.hasFields v),
    EntityType.instantiate, built]
  cases restored rules (rules.map fun r => (r.name, v r)) <;> rfl

/-- What is restored of an instance is all of it if each field survives or holds its default. -/
theorem restored_eq_self (unmixed : Unmixed rules) :
    restored rules (rules.map fun r => (r.name, v r)) = some (rules.map fun r => (r.name, v r)) ↔
      ∀ r ∈ rules, r.survives (v r) ∨ r.default = some (v r) := by
  have field (r : FieldRule) : ((some (v r)).filter r.survives).or r.default = some (v r) ↔
      r.survives (v r) ∨ r.default = some (v r) := by
    rw [Option.filter_some]
    cases r.survives (v r) <;> simp
  rw [restored_eq unmixed, fieldsOf_eq_some]
  constructor
  · rintro ⟨w, hw, same⟩ r hr
    have value := congrArg (List.lookup r.name) same
    rw [unmixed.lookup_name hr, unmixed.lookup_name hr, Option.some.injEq] at value
    exact (field r).1 (value ▸ hw r hr)
  · intro h
    exact ⟨v, fun r hr => (field r).2 (h r hr), rfl⟩

/-- A record comes back if its constructor takes its fields, all of them and nothing else, and
    leaves them as they are given. -/
theorem record_comes_back (name : String) {params : List (String × Option Value)}
    (names : (params.map (·.1)).Nodup) (hne : params ≠ []) {given fs : Arguments}
    (built : (EntityType.ofParameters name .structural params).build given = some fs)
    (compatible : ∀ f ∈ fs, f.2.stored = f.2)
    (aware : ∀ f ∈ fs, ∀ m, f.2 = .moment m → m.offset ≠ none) (property : String) :
    convert .standard property (.entity (EntityType.ofParameters name .structural params))
        (Value.entity (EntityType.ofParameters name .structural params).shape fs).stored =
      .ok (.entity (EntityType.ofParameters name .structural params).shape fs) := by
  have made := EntityType.record_madeOf name params
  have own : ∀ r ∈ params.map EntityType.parameterRule, r.storedName = r.name := by
    rintro r hr
    obtain ⟨p, -, rfl⟩ := List.mem_map.1 hr
    rfl
  have unmixed : Unmixed (params.map EntityType.parameterRule) :=
    .of_storedName (by rw [List.map_map]; exact names) own
  obtain ⟨v, accepted, rfl⟩ := made.exists_values built
  rw [List.forall_mem_map] at compatible aware
  have whole := (restored_eq_self (v := v) unmixed).2 fun r hr => .inl <| by
    rw [FieldRule.survives, own r hr, beq_self_eq_true, Bool.true_or]
  rw [convert_stored made unmixed (List.map_eq_nil_iff.not.2 hne) compatible aware accepted, whole]

/-- An instance that has a stored form of its own field values and no naive moment among them is
    converted from its stored form to the instance whose fields are the surviving ones and defaults
    for the others. So it comes back if and only if each of its fields survives or holds its
    default. -/
theorem stored_instance_comes_back (made : T.MadeOf rules) (unmixed : Unmixed rules)
    (hne : rules ≠ []) {given fs : Arguments} (built : T.build given = some fs)
    (compatible : ∀ f ∈ fs, f.2.stored = f.2)
    (aware : ∀ f ∈ fs, ∀ m, f.2 = .moment m → m.offset ≠ none) (property : String) :
    convert .standard property (.entity T) (Value.entity T.shape fs).stored =
      (match restored rules fs with
        | some fs' => .ok (.entity T.shape fs')
        | none => .error (.notConvertible T.shape.name)) ∧
    (convert .standard property (.entity T) (Value.entity T.shape fs).stored =
        .ok (.entity T.shape fs) ↔
      ∀ r ∈ rules, ∀ v, (r.name, v) ∈ fs → r.survives v ∨ r.default = some v) := by
  obtain ⟨v, accepted, rfl⟩ := made.exists_values built
  rw [List.forall_mem_map] at compatible aware
  have outcome := convert_stored made unmixed hne compatible aware accepted property
  refine ⟨outcome, ?_⟩
  have fields : (∀ r ∈ rules, ∀ x, (r.name, x) ∈ rules.map (fun r => (r.name, v r)) →
        r.survives x ∨ r.default = some x) ↔
      ∀ r ∈ rules, r.survives (v r) ∨ r.default = some (v r) := by
    refine forall₂_congr fun r hr => ⟨fun h => h _ (List.mem_map_of_mem hr), fun h x hx => ?_⟩
    obtain ⟨r', hr', same⟩ := List.mem_map.1 hx
    obtain ⟨name, rfl⟩ := Prod.mk.inj same
    rwa [unmixed.eq_of_name hr' hr name]
  rw [fields, ← restored_eq_self unmixed, outcome]
  cases restored rules (rules.map fun r => (r.name, v r)) <;> simp

/-! A member whose identifier and tags are stored under other names, and an instance whose key is
    stored under another name. -/

namespace Aliases

open EntityType

def member : List Field :=
  [⟨"id", some "_id", .anything, .null⟩, ⟨"name", none, .text, .text ""⟩,
   ⟨"tags", some "_tags", .texts, .list []⟩]

def ada : Arguments := [("id", .int 7), ("name", .text "Ada"), ("tags", .list [])]

/-- The identifier is found, and the tags are the default ones. -/
theorem ada_comes_back :
    convert .standard "member" (.entity (model "Member" member))
        (Value.entity (model "Member" member).shape ada).stored =
      .ok (.entity (model "Member" member).shape ada) := by
  have made : (model "Member" member).MadeOf (member.map Field.rule) := by
    refine model_madeOf "Member" (by decide) fun f hf => ?_
    fin_cases hf <;> rfl
  have unmixed : Unmixed (member.map Field.rule) := ⟨by decide, by decide, by decide⟩
  have built : (model "Member" member).build ada = some ada := rfl
  refine (stored_instance_comes_back made unmixed (by decide) built ?_ ?_ "member").2.2 ?_
  · simp only [ada, List.forall_mem_cons]
    exact ⟨rfl, rfl, rfl, List.forall_mem_nil _⟩
  · simp [ada]
  · simp [member, ada, Field.rule, FieldRule.survives, FieldRule.storedName, Value.isNull]

def key : Arguments := [("key", .text "k"), ("sub", .int 1)]

/-- What is stored under another name is not found again. -/
theorem aliased_key_is_lost :
    Catalog.aliased.build key = some key ∧
    (∀ f ∈ key, f.2.stored = f.2 ∧ ∀ m, f.2 ≠ .moment m) ∧
    convert .standard "ref" (.entity Catalog.aliased)
        (Value.entity Catalog.aliased.shape key).stored =
      .ok (.entity Catalog.aliased.shape [("key", .null), ("sub", .int 1)]) ∧
    ¬∃ e, convert .standard "ref" (.entity Catalog.aliased)
        (Value.entity Catalog.aliased.shape key).stored = .ok e ∧
      (Value.entity Catalog.aliased.shape key).equal e = true := by
  have outcome : convert .standard "ref" (.entity Catalog.aliased)
        (Value.entity Catalog.aliased.shape key).stored =
      .ok (.entity Catalog.aliased.shape [("key", .null), ("sub", .int 1)]) := by
    with_unfolding_all rfl
  refine ⟨rfl, ?_, outcome, ?_⟩
  · simp only [key, List.forall_mem_cons]
    exact ⟨⟨rfl, nofun⟩, ⟨rfl, nofun⟩, List.forall_mem_nil _⟩
  · rintro ⟨e, he, same⟩
    rw [outcome] at he
    cases he
    revert same
    decide

end Aliases

end LinkedDocs
