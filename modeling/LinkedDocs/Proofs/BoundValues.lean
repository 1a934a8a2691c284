import LinkedDocs.Proofs.TemplateGrammar
import LinkedDocs.Proofs.WrittenForms
import LinkedDocs.Reference.Filter

/-! What a decoded template is made of.

    A value enters a decoded template in its stored form, at a placeholder or a block. Everything
    else in it is built from literals, which are numbers, truth values and null, from texts, and
    from documents whose keys are texts. So a property that atoms have, that stored forms have and
    that lists and documents take over from their parts is a property of whatever is decoded, and of
    the filters of a lookup. -/

namespace LinkedDocs

open Value (Entries)
open ExtendedJson (ReadAs)

namespace Template

/-- Every literal is an atom. -/
inductive HasAtoms : Template → Prop
  | value {v : Value} (h : v.isAtom = true) : HasAtoms (.value v)
  | string (s : String) : HasAtoms (.string s)
  | placeholder (n : Nat) : HasAtoms (.placeholder n)
  | expression (s : String) : HasAtoms (.expression s)
  | objectId (s : String) : HasAtoms (.objectId s)
  | array {items : List Template} (h : ∀ t ∈ items, HasAtoms t) : HasAtoms (.array items)
  | document {members : List (Key × Template)} (h : ∀ m ∈ members, HasAtoms m.2) :
    HasAtoms (.document members)

theorem WritesLeaf.hasAtoms {t : Template} {a : Token} (h : WritesLeaf t a) : t.HasAtoms := by
  cases h with
  | string s => exact .string s
  | placeholder n => exact .placeholder n
  | expression s => exact .expression s
  | integer n => exact .value rfl
  | float x => exact .value rfl
  | keyword k => cases k <;> exact .value rfl

mutual

theorem Yields.hasAtoms : ∀ {t : Template} {ts : List Token}, Yields t ts → t.HasAtoms
  | _, _, .leaf h => h.hasAtoms
  | _, _, .objectId s => .objectId s
  | _, _, .emptyArray => .array (List.forall_mem_nil _)
  | _, _, .array h _ => .array h.hasAtoms
  | _, _, .emptyDocument => .document (List.forall_mem_nil _)
  | _, _, .document h _ => .document h.hasAtoms

theorem YieldsItems.hasAtoms : ∀ {items : List Template} {ts : List Token},
    YieldsItems items ts → ∀ t ∈ items, t.HasAtoms
  | _, _, .one h => List.forall_mem_singleton.2 h.hasAtoms
  | _, _, .more hs h =>
    List.forall_mem_append.2 ⟨hs.hasAtoms, List.forall_mem_singleton.2 h.hasAtoms⟩

theorem YieldsMember.hasAtoms : ∀ {m : Key × Template} {ts : List Token},
    YieldsMember m ts → m.2.HasAtoms
  | _, _, .pair _ h => h.hasAtoms

theorem YieldsMembers.hasAtoms : ∀ {members : List (Key × Template)} {ts : List Token},
    YieldsMembers members ts → ∀ m ∈ members, m.2.HasAtoms
  | _, _, .one h => List.forall_mem_singleton.2 h.hasAtoms
  | _, _, .more hs h =>
    List.forall_mem_append.2 ⟨hs.hasAtoms, List.forall_mem_singleton.2 h.hasAtoms⟩

end

/-- No template that is read off a text holds a value of a type that templates cannot write. -/
theorem hasAtoms_of_parse {source : String} {t : Template} (h : parse source = .ok t) :
    t.HasAtoms := by
  obtain ⟨ts, -, hts⟩ := parse_eq_ok.1 h
  exact hts.hasAtoms

end Template

/-! ### Documents from members -/

namespace Value.Entries

/-- What keys and values of entries have is kept when another such entry is put in. -/
theorem forall_mem_put {K V : Value → Prop} {es : Entries} {k v : Value}
    (h : ∀ e ∈ es, K e.1 ∧ V e.2) (hk : K k) (hv : V v) : ∀ e ∈ put es k v, K e.1 ∧ V e.2 := by
  induction es with
  | nil => exact List.forall_mem_singleton.2 ⟨hk, hv⟩
  | cons e es ih =>
    rw [List.forall_mem_cons] at h
    rw [put]
    split
    · exact List.forall_mem_cons.2 ⟨⟨h.1.1, hv⟩, h.2⟩
    · exact List.forall_mem_cons.2 ⟨h.1, ih h.2⟩

theorem forall_mem_ofList {K V : Value → Prop} {ms : List (Value × Value)}
    (h : ∀ m ∈ ms, K m.1 ∧ V m.2) : ∀ e ∈ ofList ms, K e.1 ∧ V e.2 := by
  have all (es : Entries) (hes : ∀ e ∈ es, K e.1 ∧ V e.2) :
      ∀ e ∈ ms.foldl (fun m e => put m e.1 e.2) es, K e.1 ∧ V e.2 := by
    induction ms generalizing es with
    | nil => exact hes
    | cons m ms ih =>
      rw [List.forall_mem_cons] at h
      exact ih h.2 _ (forall_mem_put hes h.1.1 h.1.2)
  exact all [] (List.forall_mem_nil _)

end Value.Entries

/-! ### Decoding -/

/-- A property that a decoded value takes over from its parts. -/
structure Value.IsBuiltUp (P : Value → Prop) : Prop where
  atom {v : Value} (h : v.isAtom = true) : P v
  list {xs : List Value} (h : ∀ x ∈ xs, P x) : P (.list xs)
  document {es : Entries} {v : Value} (h : ∀ e ∈ es, (∃ s, e.1 = .text s) ∧ P e.2)
    (hv : ReadAs es v) : P v

namespace Binding

variable {b : Binding} {I : Memory → Prop} {P : Value → Prop}

/-- The property of what the binding brings into a decoded template. -/
structure Brings (b : Binding) (I : Memory → Prop) (P : Value → Prop) : Prop where
  parameter (n : Int) : Gives (b.parameter n) fun v => P v.stored
  evaluate (source : String) : Run.Gives I (b.evaluate source) fun v => P v.stored

theorem gives_renderAll {f : Segment → Run Memory String}
    (h : ∀ s, Run.Gives I (f s) fun _ => True) (ss : List Segment) :
    Run.Gives I (renderAll f ss) fun _ => True := by
  induction ss with
  | nil => exact .pure trivial
  | cons s ss ih => exact (h s).bind fun _ _ => ih.bind fun _ _ => .pure trivial

theorem Brings.renderQuoted (h : b.Brings I P) (s : Segment) :
    Run.Gives I (b.renderQuoted s) fun _ => True := by
  cases s with
  | placeholder n => exact (Run.Gives.lift (h.parameter n)).bind fun _ _ => .value _
  | expression src => exact (h.evaluate src).bind fun _ _ => .value _
  | bare src => exact .pure trivial
  | text t => exact .pure trivial

theorem Brings.interpolate (h : b.Brings I P) (content : String) :
    Run.Gives I (b.interpolate content) fun _ => True :=
  .lift_seq (gives_renderAll h.renderQuoted)

theorem Brings.bindString (h : b.Brings I P) (hP : Value.IsBuiltUp P) (content : String) :
    Run.Gives I (b.bindString content) P := by
  refine .lift_seq fun ss => ?_
  split
  · exact (Run.Gives.lift (h.parameter _)).bind fun _ => .pure
  · exact (h.evaluate _).bind fun _ => .pure
  · exact (gives_renderAll h.renderQuoted _).bind fun _ _ => .pure (hP.atom rfl)

theorem Brings.bindKey (h : b.Brings I P) (key : Template.Key) :
    Run.Gives I (b.bindKey key) fun _ => True := by
  cases key with
  | name s => exact .pure trivial
  | string s => exact h.interpolate s
  | placeholder n => exact (Run.Gives.lift (h.parameter n)).bind fun _ _ => .value _
  | expression src => exact (h.evaluate src).bind fun _ _ => .value _

theorem gives_bindItems {items : List Template} (h : ∀ t ∈ items, Run.Gives I (b.bind t) P) :
    Run.Gives I (b.bindItems items) fun xs => ∀ x ∈ xs, P x := by
  induction items with
  | nil => exact .pure (List.forall_mem_nil _)
  | cons t items ih =>
    rw [List.forall_mem_cons] at h
    refine h.1.bind ?_
    intro x hx
    refine (ih h.2).bind ?_
    intro xs hxs
    exact .pure (List.forall_mem_cons.2 ⟨hx, hxs⟩)

theorem Brings.bindMembers (h : b.Brings I P) {members : List (Template.Key × Template)}
    (hm : ∀ m ∈ members, Run.Gives I (b.bind m.2) P) :
    Run.Gives I (b.bindMembers members) fun es => ∀ e ∈ es, (∃ s, e.1 = .text s) ∧ P e.2 := by
  induction members with
  | nil => exact .pure (List.forall_mem_nil _)
  | cons m members ih =>
    rw [List.forall_mem_cons] at hm
    refine (h.bindKey m.1).bind ?_
    intro s _
    refine hm.1.bind ?_
    intro v hv
    refine (ih hm.2).bind ?_
    intro es hes
    exact .pure (List.forall_mem_cons.2 ⟨⟨⟨s, rfl⟩, hv⟩, hes⟩)

/-- Induction on the template. -/
theorem Brings.bind (h : b.Brings I P) (hP : Value.IsBuiltUp P) {t : Template} (ht : t.HasAtoms) :
    Run.Gives I (b.bind t) P := by
  induction ht with
  | value hv => exact .pure (hP.atom hv)
  | string s => exact h.bindString hP s
  | placeholder n => exact (Run.Gives.lift (h.parameter n)).bind fun _ => .pure
  | expression src => exact (h.evaluate src).bind fun _ => .pure
  | objectId s =>
    -- Whatever is bound in its text, an identifier is an atom.
    refine (h.bindString hP s).bind ?_
    intro v _
    have hatom := ExtendedJson.objectId_givesAtom v
    exact .lift (hatom.mono fun _ => hP.atom)
  | array _ ih =>
    refine (gives_bindItems ih).bind ?_
    intro xs hxs
    exact .pure (hP.list hxs)
  | document _ ih =>
    refine (h.bindMembers ih).bind ?_
    intro ms hms
    refine .lift ((ExtendedJson.gives_interpret _).mono ?_)
    intro v hv
    refine hP.document ?_ hv
    exact Value.Entries.forall_mem_ofList (K := fun k => ∃ s, k = .text s) hms

theorem Brings.decodeValue (h : b.Brings I P) (hP : Value.IsBuiltUp P) (template : String) :
    Run.Gives I (b.decodeValue template) P :=
  (Run.Gives.lift fun _ => Template.hasAtoms_of_parse).bind fun _ => h.bind hP

/-- A decoded document is a mapping with the property. -/
theorem Brings.decode (h : b.Brings I P) (hP : Value.IsBuiltUp P) (template : String) :
    Run.Gives I (b.decode template) fun v => v.isMapping = true ∧ P v := by
  refine (h.decodeValue hP template).bind ?_
  intro v hv
  split
  · next hmap => exact .pure ⟨hmap, hv⟩
  · exact .lift (.error _)

end Binding

/-! ### Filters -/

namespace Property

variable {p : Property} {l : Lookup} {P : Value → Prop}

/-- The filter of a reference value is a mapping with the property. -/
theorem gives_branch {I : Binding.Memory → Prop} {v : Value} (h : (p.binding v).Brings I P)
    (hI : I .fresh) (hP : Value.IsBuiltUp P) :
    Gives (p.branch l v) fun f => f.isMapping = true ∧ P f :=
  (h.decode hP l.template).outcome hI

theorem gives_branches {vs : List Value} (h : ∀ v ∈ vs, Gives (p.branch l v) P) :
    Gives (p.branches l vs) fun bs => ∀ b ∈ bs, P b := by
  induction vs with
  | nil => exact .ok (List.forall_mem_nil _)
  | cons v vs ih =>
    rw [List.forall_mem_cons] at h
    refine h.1.bind ?_
    intro b hb
    refine (ih h.2).bind ?_
    intro bs hbs
    exact .ok (List.forall_mem_cons.2 ⟨hb, hbs⟩)

end Property

end LinkedDocs
