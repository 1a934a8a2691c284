import LinkedDocs.Proofs.OpenerNeutrality

/-! Contexts that are computed from templates.

    A setting is evaluated in a memory that only holds the scope, so what it gives does not depend
    on the settings before it. The context is then made of three values that are found apart. Where
    one of them is null or an empty text, the default is taken, just as if the setting were not
    configured; and what is left is a name or a document, or refused. Only program code that is
    empty is no empty text, and is taken for a name. -/

namespace LinkedDocs

open Value (Entries)

/-! ### Settings -/

/-- Null or an empty text. -/
def Value.IsNothing (v : Value) : Prop := v = .null ∨ v = .text ""

/-- A text that is not empty. -/
def Value.IsName (v : Value) : Prop := ∃ s, v.text? = some s ∧ s ≠ ""

/-- A mapping that names a collection itself. -/
def Value.Embeds (v x : Value) : Prop :=
  ∃ es, v.entries? = some es ∧ Entries.get? es (.text "collection") = some x ∧ x.truthy = true

namespace Property

variable {p : Property} {l l' : Lookup} {v w : Value} {template : String} {b : Binding}

/-- A text that configures nothing. -/
def IsBlank (template : String) : Prop := (Text.trim template.toList).isEmpty = true

/-- What the template of a setting evaluates to. -/
def configured (b : Binding) (template : String) : Run Binding.Memory Value :=
  if isValueTemplate template then b.decodeValue template else b.evaluatePlain template

/-- The template is configured and evaluates to `w` for a reference value. -/
def Evaluates (p : Property) (template : String) (value w : Value) : Prop :=
  ¬IsBlank template ∧
    ∃ v ∈ value.speaker?, (configured (p.binding v) template).outcome .fresh = .ok w

/-- The template is not configured, or evaluates to nothing. -/
def Unset (p : Property) (template : String) (value : Value) : Prop :=
  IsBlank template ∨ ∃ w, p.Evaluates template value w ∧ w.IsNothing

/-- A name, or the empty program code that the template evaluates to. -/
def Names (p : Property) (template : String) (value w : Value) : Prop :=
  w.IsName ∨ ∃ scope, w = .code "" scope ∧ p.Evaluates template value w

theorem steady_configured (b : Binding) (template : String) :
    Run.Steady b.Coherent (configured b template) := by
  unfold configured
  split
  · exact b.steady_decodeValue template
  · exact b.steady_evaluatePlain template

/-- Null and an empty text give way to the default. -/
def orDefault (default : Value) : Value → Value
  | .null | .text "" => default
  | w => w

theorem orDefault_nothing (h : w.IsNothing) (default : Value) : orDefault default w = default := by
  rcases h with rfl | rfl <;> rfl

theorem orDefault_other (h : ¬w.IsNothing) (default : Value) : orDefault default w = w := by
  unfold orDefault
  split
  · exact absurd (.inl rfl) h
  · exact absurd (.inr rfl) h
  · rfl

theorem settled_eq (default w : Value) : settled default w = pure (orDefault default w) := by
  unfold settled
  split
  · rfl
  · rfl
  · next notNull notEmpty => rw [orDefault_other fun nothing => nothing.elim notNull notEmpty]

theorem setting_blank (h : IsBlank template) (default : Value) :
    setting b template default = pure default := if_pos h

/-- A setting amounts to what its template evaluates to, or to the default if that is nothing. -/
theorem amountsTo_setting (h : ¬IsBlank template) (default : Value) :
    Run.AmountsTo b.Coherent (setting b template default)
      ((configured b template).outcome .fresh >>= fun w => .ok (orDefault default w)) := by
  have sequence : setting b template default = configured b template >>= settled default := by
    refine (if_neg h).trans ?_
    unfold configured
    split <;> rfl
  rw [sequence]
  refine ((steady_configured b template).amountsTo b.coherent_fresh).bind fun w => ?_
  rw [settled_eq]
  exact .pure _

theorem steady_setting (b : Binding) (template : String) (default : Value) :
    Run.Steady b.Coherent (setting b template default) := by
  by_cases h : IsBlank template
  · rw [setting_blank h]
    exact .pure default
  · exact ⟨_, amountsTo_setting h default⟩

theorem outcome_setting (h : ¬IsBlank template) (default : Value) :
    (setting b template default).outcome .fresh
      = (configured b template).outcome .fresh >>= fun w => .ok (orDefault default w) :=
  (amountsTo_setting h default).outcome b.coherent_fresh

/-- A setting gives its default, or something that its template evaluates to. -/
theorem setting_eq_ok {default : Value} (h : (setting b template default).outcome .fresh = .ok w) :
    w = default ∨ ¬IsBlank template ∧ (configured b template).outcome .fresh = .ok w ∧
      ¬w.IsNothing := by
  by_cases blank : IsBlank template
  · rw [setting_blank blank] at h
    exact .inl (Except.ok.inj h).symm
  · rw [outcome_setting blank] at h
    obtain ⟨x, hx, hw⟩ := bind_eq_ok.1 h
    obtain rfl := Except.ok.inj hw
    by_cases nothing : x.IsNothing
    · exact .inl (orDefault_nothing nothing default)
    · rw [orDefault_other nothing]
      exact .inr ⟨blank, hx, nothing⟩

/-- A template that evaluates to nothing leaves the setting at its default. -/
theorem setting_unset {value : Value} (hv : v ∈ value.speaker?) (h : p.Unset template value)
    (default : Value) : (setting (p.binding v) template default).outcome .fresh = .ok default := by
  rcases h with blank | ⟨w, ⟨configured, x, hx, hw⟩, nothing⟩
  · rw [setting_blank blank]
    rfl
  · obtain rfl := Option.mem_unique hx hv
    rw [outcome_setting configured, hw]
    exact congrArg Except.ok (orDefault_nothing nothing default)

/-! ### Contexts -/

/-- The settings of a lookup are found apart. -/
theorem outcome_lookupContext (p : Property) (l : Lookup) (v : Value) :
    (p.lookupContext l v).outcome .fresh = (do
      let database ← (setting (p.binding v) l.database .null).outcome .fresh
      let collection ← (setting (p.binding v) l.collection (p.defaultCollection v)).outcome .fresh
      let sort ← (setting (p.binding v) l.sort .null).outcome .fresh
      checkedContext l database collection sort) := by
  have found (template : String) (default : Value) :=
    (steady_setting (p.binding v) template default).amountsTo (p.binding v).coherent_fresh
  refine Run.AmountsTo.outcome ?_ (p.binding v).coherent_fresh
  exact (found _ _).bind fun d => (found _ _).bind fun c => (found _ _).bind fun s => .lift _

/-- Lookups whose settings come to the same compute the same context, or both fail. -/
theorem lookupContext_congr
    (database : ∀ d, (setting (p.binding v) l.database d).outcome .fresh
      = (setting (p.binding v) l'.database d).outcome .fresh)
    (collection : ∀ d, (setting (p.binding v) l.collection d).outcome .fresh
      = (setting (p.binding v) l'.collection d).outcome .fresh)
    (sort : ∀ d, (setting (p.binding v) l.sort d).outcome .fresh
      = (setting (p.binding v) l'.sort d).outcome .fresh) :
    SameOrFaults ((p.lookupContext l v).outcome .fresh)
      ((p.lookupContext l' v).outcome .fresh) := by
  rw [outcome_lookupContext, outcome_lookupContext, database, collection, sort]
  cases (setting (p.binding v) l'.database .null).outcome .fresh with
  | error e => exact .inl rfl
  | ok d =>
    cases (setting (p.binding v) l'.collection (p.defaultCollection v)).outcome .fresh with
    | error e => exact .inl rfl
    | ok c =>
      cases (setting (p.binding v) l'.sort .null).outcome .fresh with
      | error e => exact .inl rfl
      | ok s => exact checkedContext_sameOrFaults l l' d c s

/-- What is checked of a context. -/
theorem checkedContext_eq_ok {d c s : Value} {x : Context} (h : checkedContext l d c s = .ok x) :
    (d ≠ .null → ∃ t, d.text? = some t) ∧ (∃ t, c.text? = some t) ∧ x.database = d ∧
      x.collection = c ∧ (x.sort = .null ∨ s ≠ .null ∧ ∃ e es, x.sort = .map (e :: es)) := by
  unfold checkedContext at h
  split at h
  · cases h
  · next hd =>
    split at h
    · cases h
    · next hc =>
      split at h
      · cases h
      · obtain rfl := Except.ok.inj h
        refine ⟨fun some => ?_, Option.ne_none_iff_exists'.1 (by simpa using hc), rfl, rfl, ?_⟩
        · have notNull : d.isNull = false := by cases d <;> first | rfl | exact absurd rfl some
          rw [notNull] at hd
          exact Option.ne_none_iff_exists'.1 (by simpa using hd)
        · dsimp only
          split
          · next e es hes =>
            refine .inr ⟨?_, e, es, rfl⟩
            rintro rfl
            cases hes
          · exact .inl rfl

/-- A default that is a text is a name. -/
theorem isName_default (hp : p.collection ≠ "") {t : String}
    (h : (p.defaultCollection v).text? = some t) : (p.defaultCollection v).IsName := by
  refine ⟨t, h, ?_⟩
  rintro rfl
  unfold defaultCollection at h
  generalize ((v.entries?.bind (Entries.get? · (.text "collection"))).getD .null) = own at h
  dsimp only at h
  split at h
  · next truthy => cases own <;> cases h <;> cases truthy
  · exact hp (Option.some.inj h)

theorem defaultCollection_embedded {x : Value} (h : v.Embeds x) : p.defaultCollection v = x := by
  obtain ⟨es, hes, hx, truthy⟩ := h
  simp [defaultCollection, hes, hx, truthy]

theorem defaultCollection_own (h : ∀ x, ¬v.Embeds x) :
    p.defaultCollection v = .text p.collection := by
  refine if_neg fun truthy => ?_
  cases hes : v.entries? with
  | none => simp [hes, Value.truthy] at truthy
  | some es =>
    cases hx : Entries.get? es (.text "collection") with
    | none => simp [hes, hx, Value.truthy] at truthy
    | some x => exact h x ⟨es, hes, hx, by simpa [hes, hx] using truthy⟩

/-- Something other than an empty text is a name, or empty program code. -/
theorem names_of_evaluates {value : Value} {t : String} (evaluates : p.Evaluates template value w)
    (present : ¬w.IsNothing) (h : w.text? = some t) : p.Names template value w := by
  by_cases empty : t = ""
  · subst empty
    cases w with
    | text s =>
      cases h
      exact absurd (.inr rfl) present
    | code s scope =>
      cases h
      exact .inr ⟨scope, rfl, evaluates⟩
    | _ => cases h
  · exact .inl ⟨t, h, empty⟩

/-- The first value of a list speaks for all of them. -/
theorem context_of_speaker {value : Value} (hv : v ∈ value.speaker?) :
    p.context value = p.singleContext v := by
  unfold Value.speaker? at hv
  unfold context
  split at hv
  · next none =>
    obtain rfl := Option.some.inj hv
    rw [none]
  · next vs some =>
    obtain ⟨vs, rfl⟩ := List.head?_eq_some_iff.1 hv
    rw [some]

theorem context_of_no_speaker {value : Value} (h : value.speaker? = none) :
    p.context value = .ok ⟨.null, .text p.collection, .null⟩ := by
  unfold Value.speaker? at h
  unfold context
  split at h
  · cases h
  · next vs some =>
    rw [List.head?_eq_none_iff.1 h] at some
    rw [some]

/-- What the settings of a computed context are. -/
theorem lookupContext_eq_ok {value : Value} (hv : v ∈ value.speaker?) (hp : p.collection ≠ "")
    {c : Context} (h : (p.lookupContext l v).outcome .fresh = .ok c) :
    (c.database = .null ∨ p.Names l.database value c.database) ∧
      p.Names l.collection value c.collection ∧
      (c.sort = .null ∨ ∃ e es, c.sort = .map (e :: es)) ∧
      (p.Unset l.database value → c.database = .null) ∧
      (p.Unset l.sort value → c.sort = .null) ∧
      (p.Unset l.collection value → c.collection = p.defaultCollection v) := by
  rw [outcome_lookupContext] at h
  obtain ⟨d, hd, h⟩ := bind_eq_ok.1 h
  obtain ⟨k, hk, h⟩ := bind_eq_ok.1 h
  obtain ⟨s, hs, h⟩ := bind_eq_ok.1 h
  obtain ⟨database, ⟨t, collection⟩, rfl, rfl, sort⟩ := checkedContext_eq_ok h
  refine ⟨?_, ?_, sort.imp_right And.right, fun unset => ?_, fun unset => ?_, fun unset => ?_⟩
  · rcases setting_eq_ok hd with null | ⟨configured, evaluates, present⟩
    · exact .inl null
    · obtain ⟨t, text⟩ := database fun null => present (.inl null)
      exact .inr (names_of_evaluates ⟨configured, v, hv, evaluates⟩ present text)
  · rcases setting_eq_ok hk with default | ⟨configured, evaluates, present⟩
    · rw [default] at collection ⊢
      exact .inl (isName_default hp collection)
    · exact names_of_evaluates ⟨configured, v, hv, evaluates⟩ present collection
  · exact (Except.ok.inj ((setting_unset hv unset _).symm.trans hd)).symm
  · have null : s = .null := (Except.ok.inj ((setting_unset hv unset _).symm.trans hs)).symm
    exact sort.resolve_right fun sorted => sorted.1 null
  · exact (Except.ok.inj ((setting_unset hv unset _).symm.trans hk)).symm

/-- A context that is computed has names for its database, if any, and its collection, and a
    document for its sort order, if any, unless a template evaluates to empty program code. A
    setting whose template evaluates to nothing is as good as not configured, whatever the other
    ones are: the collection is then the one that the reference embeds, if any, and else the
    property's. -/
theorem contexts_fall_back (p : Property) (l : Lookup) (hl : p.link = .lookup l)
    (hp : p.collection ≠ "") (value : Value) :
    (∀ c, p.context value = .ok c →
      (c.database = .null ∨ p.Names l.database value c.database) ∧
      p.Names l.collection value c.collection ∧
      (c.sort = .null ∨ ∃ e es, c.sort = .map (e :: es)) ∧
      (p.Unset l.database value → c.database = .null) ∧
      (p.Unset l.sort value → c.sort = .null) ∧
      (p.Unset l.collection value → ∀ v ∈ value.speaker?,
        (∀ x, v.Embeds x → c.collection = x) ∧
        ((∀ x, ¬v.Embeds x) → c.collection = .text p.collection))) ∧
    ∀ s template blank, p.Unset template value → IsBlank blank →
      SameOrFaults ((p.withSetting l s template).context value)
        ((p.withSetting l s blank).context value) := by
  cases hspeaker : value.speaker? with
  | none =>
    refine ⟨fun c h => ?_, fun s template blank _ _ => .inl ?_⟩
    · rw [context_of_no_speaker hspeaker] at h
      obtain rfl := Except.ok.inj h
      refine ⟨.inl rfl, .inl ⟨_, rfl, hp⟩, .inl rfl, fun _ => rfl, fun _ => rfl, ?_⟩
      exact fun _ v hv => nomatch hv
    · rw [context_of_no_speaker hspeaker, context_of_no_speaker hspeaker]
      rfl
  | some v =>
    refine ⟨fun c h => ?_, fun s template blank unset hblank => ?_⟩
    · rw [context_of_speaker hspeaker, singleContext, hl] at h
      obtain ⟨database, collection, sort, noDatabase, noSort, noCollection⟩ :=
        lookupContext_eq_ok hspeaker hp h
      refine ⟨database, collection, sort, noDatabase, noSort, fun unset w hw => ?_⟩
      obtain rfl := Option.some.inj hw
      rw [noCollection unset]
      exact ⟨fun x => defaultCollection_embedded, defaultCollection_own⟩
    · rw [context_of_speaker hspeaker, context_of_speaker hspeaker]
      have same (d : Value) : (setting (p.binding v) template d).outcome .fresh
          = (setting (p.binding v) blank d).outcome .fresh := by
        rw [setting_unset hspeaker unset, setting_blank hblank]
        rfl
      have keep (t : String) (d : Value) : (setting (p.binding v) t d).outcome .fresh
          = (setting (p.binding v) t d).outcome .fresh := rfl
      cases s with
      | database => exact lookupContext_congr same (keep _) (keep _)
      | collection => exact lookupContext_congr (keep _) same (keep _)
      | sort => exact lookupContext_congr (keep _) (keep _) same

end Property

namespace Fallbacks

open Property

def lookup (database collection : String) : Lookup :=
  ⟨Lookup.defaultTemplate, database, collection, "", false⟩

def publisher (l : Lookup) : Property :=
  ⟨"publisher", "publisher", .mapping none, "publisher", false, false, .lookup l⟩

/-- Program code that is empty is no name, but is taken for a database all the same. -/
theorem empty_code_is_taken : ∃ c,
    (publisher (lookup "?0" "")).context (.code "" .null) = .ok c ∧
      ¬(c.database = .null ∨ c.database.IsName) := by
  refine ⟨⟨.code "" .null, .text "publisher", .null⟩, by with_unfolding_all rfl, ?_⟩
  rintro (null | ⟨t, text, nonempty⟩)
  · cases null
  · cases text
    exact nonempty rfl

def acronym : Value := .map [(.text "acronym", .text "DVA")]

/-- The collection is read off a key that the reference does not have. -/
theorem missing_collection_falls_back :
    (∃ c, (publisher (lookup "archive" "#\x7b#target.collection\x7d")).context acronym = .ok c ∧
      c.database.IsName ∧ c.collection = .text "publisher") ∧
    SameOrFaults
      ((publisher (lookup "archive" "#\x7b#target.collection\x7d")).context acronym)
      ((publisher (lookup "archive" "")).context acronym) := by
  obtain ⟨computed, same⟩ := contexts_fall_back
    (publisher (lookup "archive" "#\x7b#target.collection\x7d")) _ rfl (by decide) acronym
  have unset : (publisher (lookup "archive" "#\x7b#target.collection\x7d")).Unset
      "#\x7b#target.collection\x7d" acronym := by
    refine .inr ⟨.null, ⟨?_, acronym, rfl, ?_⟩, .inl rfl⟩
    · unfold IsBlank
      decide +kernel
    · with_unfolding_all rfl
  have context : (publisher (lookup "archive" "#\x7b#target.collection\x7d")).context acronym
      = .ok ⟨.text "archive", .text "publisher", .null⟩ := by with_unfolding_all rfl
  obtain ⟨-, -, -, -, -, collection⟩ := computed _ context
  refine ⟨⟨_, context, ⟨"archive", rfl, by decide⟩, (collection unset acronym rfl).2 ?_⟩,
    same .collection _ "" unset rfl⟩
  rintro x ⟨es, hes, hx, -⟩
  obtain rfl := Option.some.inj hes
  cases hx

end Fallbacks

end LinkedDocs
