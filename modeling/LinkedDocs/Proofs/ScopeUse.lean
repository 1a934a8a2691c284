import LinkedDocs.Proofs.Evaluation

/-! When the scope of a binding is built.

    Requests to one binding share its memory. What a request evaluates is said here without the
    memory: the nodes of an expression in order, the right operand of a sum only if the left one has
    a value, the blocks of a text and the parts of a template only if all before them succeed. The
    scope is built as soon as one of these nodes is a name, and then kept, so any number of requests
    builds it once at most, and each has the outcome it has alone. -/

namespace LinkedDocs

namespace Expr

/-- A variable or a bare name of the root object: what the scope is needed for. -/
def isName : Expr → Bool
  | .variable _ | .root _ => true
  | _ => false

/-- Evaluating the first expression evaluates the second, a node of it. -/
inductive Evaluates (b : Binding) (source : String) : Expr → Expr → Prop
  | itself (e : Expr) : Evaluates b source e e
  | property {e n : Expr} {name : String} (h : Evaluates b source e n) :
    Evaluates b source (.property e name) n
  | index {e n : Expr} {key : Key} (h : Evaluates b source e n) :
    Evaluates b source (.index e key) n
  | left {l r n : Expr} (h : Evaluates b source l n) : Evaluates b source (.add l r) n
  /-- Only behind an operand that has a value. -/
  | right {l r n : Expr} {v : Value} (hl : l.value b source = .ok v) (h : Evaluates b source r n) :
    Evaluates b source (.add l r) n

end Expr

namespace Binding

/-- Evaluating the text evaluates the node. -/
def Evaluates (b : Binding) (text : String) (n : Expr) : Prop :=
  ∃ e, Expr.parse text = .ok e ∧ e.Evaluates b text n

/-- Rendering segments evaluates the node: it belongs to a block, and all segments before that are
    rendered. -/
inductive EvaluatesInSegments (b : Binding) (block? : Segment → Option String)
    (render : Segment → Run Memory String) : List Segment → Expr → Prop
  | here {s : Segment} {ss : List Segment} {src : String} {n : Expr} (hs : block? s = some src)
    (h : b.Evaluates src n) : EvaluatesInSegments b block? render (s :: ss) n
  | later {s : Segment} {ss : List Segment} {t : String} {n : Expr}
    (hs : (render s).outcome .fresh = .ok t) (h : EvaluatesInSegments b block? render ss n) :
    EvaluatesInSegments b block? render (s :: ss) n

end Binding

/-- The source of a block that binds inside a quoted string. -/
def Segment.marked? : Segment → Option String
  | .expression s => some s
  | _ => none

namespace Binding

def EvaluatesInQuoted (b : Binding) (content : String) (n : Expr) : Prop :=
  ∃ ss, Segment.split content = .ok ss ∧ b.EvaluatesInSegments Segment.marked? b.renderQuoted ss n

def EvaluatesInPlain (b : Binding) (template : String) (n : Expr) : Prop :=
  ∃ ss, Segment.split template = .ok ss ∧ b.EvaluatesInSegments Segment.block? b.renderPlain ss n

inductive EvaluatesInKey (b : Binding) : Template.Key → Expr → Prop
  | string {s : String} {n : Expr} (h : b.EvaluatesInQuoted s n) : EvaluatesInKey b (.string s) n
  | expression {src : String} {n : Expr} (h : b.Evaluates src n) :
    EvaluatesInKey b (.expression src) n

mutual

/-- Binding a template evaluates the node. -/
inductive EvaluatesIn (b : Binding) : Template → Expr → Prop
  | string {s : String} {n : Expr} (h : b.EvaluatesInQuoted s n) : EvaluatesIn b (.string s) n
  | expression {src : String} {n : Expr} (h : b.Evaluates src n) : EvaluatesIn b (.expression src) n
  | objectId {s : String} {n : Expr} (h : b.EvaluatesInQuoted s n) : EvaluatesIn b (.objectId s) n
  | array {ts : List Template} {n : Expr} (h : EvaluatesInItem b ts n) : EvaluatesIn b (.array ts) n
  | document {ms : List (Template.Key × Template)} {n : Expr} (h : EvaluatesInMember b ms n) :
    EvaluatesIn b (.document ms) n

/-- It belongs to one of the items, and those before it are bound. -/
inductive EvaluatesInItem (b : Binding) : List Template → Expr → Prop
  | here {t : Template} {ts : List Template} {n : Expr} (h : EvaluatesIn b t n) :
    EvaluatesInItem b (t :: ts) n
  | later {t : Template} {ts : List Template} {v : Value} {n : Expr}
    (ht : (b.bind t).outcome .fresh = .ok v) (h : EvaluatesInItem b ts n) :
    EvaluatesInItem b (t :: ts) n

/-- It belongs to the key or the value of one of the members, and all before that is bound. -/
inductive EvaluatesInMember (b : Binding) : List (Template.Key × Template) → Expr → Prop
  | key {k : Template.Key} {t : Template} {ms : List (Template.Key × Template)} {n : Expr}
    (h : b.EvaluatesInKey k n) : EvaluatesInMember b ((k, t) :: ms) n
  | value {k : Template.Key} {t : Template} {ms : List (Template.Key × Template)} {s : String}
    {n : Expr} (hk : (b.bindKey k).outcome .fresh = .ok s) (h : EvaluatesIn b t n) :
    EvaluatesInMember b ((k, t) :: ms) n
  | later {k : Template.Key} {t : Template} {ms : List (Template.Key × Template)} {s : String}
    {v : Value} {n : Expr} (hk : (b.bindKey k).outcome .fresh = .ok s)
    (ht : (b.bind t).outcome .fresh = .ok v) (h : EvaluatesInMember b ms n) :
    EvaluatesInMember b ((k, t) :: ms) n

end

/-! ### Computations that use the scope or not -/

/-- The memory after the scope has been used. -/
def used (b : Binding) (m : Memory) : Memory := (b.useScope.exec m).2

theorem coherent_used {b : Binding} {m : Memory} (hm : b.Coherent m) : b.Coherent (b.used m) := by
  obtain ⟨m', hm', hrun⟩ := exec_useScope hm
  rw [used, hrun]
  exact hm'

/-- Once built, the scope is kept. -/
theorem used_used (b : Binding) (m : Memory) : b.used (b.used m) = b.used m := by
  obtain ⟨scope, built⟩ := m
  cases scope <;> rfl

variable {α β : Type} {b : Binding}

/-- From every coherent memory the computation has the same outcome, and what it does to the memory
    is to use the scope, if `t` holds, and else nothing. -/
structure Consults (b : Binding) (x : Run Memory α) (t : Prop) : Prop where
  steady : ∀ m, b.Coherent m → x.outcome m = x.outcome .fresh
  uses : t → ∀ m, b.Coherent m → (x.exec m).2 = b.used m
  rests : ¬ t → ∀ m, b.Coherent m → (x.exec m).2 = m

namespace Consults

variable {x : Run Memory α} {t u : Prop}

theorem congr (h : Consults b x t) (hu : u ↔ t) : Consults b x u := by
  rw [propext hu]
  exact h

theorem lift (r : Except Failure α) : Consults b (Run.lift r) False :=
  ⟨fun _ _ => rfl, False.elim, fun _ _ _ => rfl⟩

theorem pure (a : α) : Consults b (Pure.pure a) False := lift (.ok a)

theorem useScope (b : Binding) : Consults b b.useScope True where
  steady m hm := by
    obtain ⟨m', -, hrun⟩ := exec_useScope hm
    rw [Run.outcome, hrun]
    rfl
  uses _ _ _ := rfl
  rests h := absurd trivial h

theorem coherent (h : Consults b x t) {m : Memory} (hm : b.Coherent m) :
    b.Coherent (x.exec m).2 := by
  by_cases ht : t
  · rw [h.uses ht m hm]
    exact coherent_used hm
  · rw [h.rests ht m hm]
    exact hm

theorem bind_steady {f : α → Run Memory β} {u : α → Prop} (hx : Consults b x t)
    (hf : ∀ a, x.outcome .fresh = .ok a → Consults b (f a) (u a)) {m : Memory}
    (hm : b.Coherent m) : (x >>= f).outcome m = (x >>= f).outcome .fresh := by
  have hsame := hx.steady m hm
  cases h : x.outcome .fresh with
  | error e =>
    rw [Run.outcome, Run.exec_bind_of_error (hsame.trans h), Run.outcome,
      Run.exec_bind_of_error h]
  | ok a =>
    rw [Run.outcome, Run.exec_bind_of_ok (hsame.trans h), Run.outcome, Run.exec_bind_of_ok h]
    exact ((hf a h).steady _ (hx.coherent hm)).trans
      ((hf a h).steady _ (hx.coherent b.coherent_fresh)).symm

/-- The rest of a sequence uses the scope if its first part succeeds and then the rest does. -/
theorem bind {f : α → Run Memory β} {u : α → Prop} (hx : Consults b x t)
    (hf : ∀ a, x.outcome .fresh = .ok a → Consults b (f a) (u a)) :
    Consults b (x >>= f) (t ∨ ∃ a, x.outcome .fresh = .ok a ∧ u a) where
  steady m hm := hx.bind_steady hf hm
  uses h m hm := by
    have hsame := hx.steady m hm
    cases hr : x.outcome .fresh with
    | error e =>
      have ht : t := by simpa [hr] using h
      rw [Run.exec_bind_of_error (hsame.trans hr)]
      exact hx.uses ht m hm
    | ok a =>
      have htu : t ∨ u a := by simpa [hr] using h
      have hmid := hx.coherent hm
      rw [Run.exec_bind_of_ok (hsame.trans hr)]
      by_cases hu : u a
      · rw [(hf a hr).uses hu _ hmid]
        by_cases ht : t
        · rw [hx.uses ht m hm, used_used]
        · rw [hx.rests ht m hm]
      · rw [(hf a hr).rests hu _ hmid]
        exact hx.uses (htu.resolve_right hu) m hm
  rests h m hm := by
    have hsame := hx.steady m hm
    obtain ⟨ht, hnone⟩ := not_or.mp h
    cases hr : x.outcome .fresh with
    | error e =>
      rw [Run.exec_bind_of_error (hsame.trans hr)]
      exact hx.rests ht m hm
    | ok a =>
      rw [Run.exec_bind_of_ok (hsame.trans hr), (hf a hr).rests _ _ (hx.coherent hm)]
      · exact hx.rests ht m hm
      · intro hu
        exact hnone ⟨a, hr, hu⟩

/-- A last part that leaves the memory alone does not matter. -/
theorem andThen {f : α → Run Memory β} (hx : Consults b x t)
    (hf : ∀ a, Consults b (f a) False) : Consults b (x >>= f) t :=
  (hx.bind fun a _ => hf a).congr (by simp)

end Consults

end Binding

/-! ### Expressions -/

/-- There is a name among some nodes. -/
def Named (P : Expr → Prop) : Prop := ∃ n, P n ∧ n.isName = true

theorem Named.congr {P Q : Expr → Prop} (h : ∀ n, P n ↔ Q n) : Named P ↔ Named Q := by
  simp only [Named, h]

theorem named_none {P : Expr → Prop} (h : ∀ n, ¬ P n) : Named P ↔ False := by
  simp only [Named, h, false_and, exists_false]

/-- The first part of a sequence, or the rest if the first part succeeds. -/
theorem named_seq {α : Type} {r : Except Failure α} {P Q : Expr → Prop} :
    Named (fun n => P n ∨ ∃ a, r = .ok a ∧ Q n) ↔ Named P ∨ ∃ a, r = .ok a ∧ Named Q := by
  simp only [Named, or_and_right, exists_or, exists_and_right, and_assoc, exists_and_left]

theorem named_of_ok {α : Type} {r : Except Failure α} {P : α → Expr → Prop} :
    Named (fun n => ∃ a, r = .ok a ∧ P a n) ↔ ∃ a, r = .ok a ∧ Named (P a) := by
  constructor
  · rintro ⟨n, ⟨a, ha, h⟩, hn⟩
    exact ⟨a, ha, n, h, hn⟩
  · rintro ⟨a, ha, n, h, hn⟩
    exact ⟨n, ⟨a, ha, h⟩, hn⟩

namespace Binding.Consults

variable {α β : Type} {b : Binding} {x : Run Memory α} {P Q : Expr → Prop}

/-- What is read or looked up first does not use the scope. -/
theorem lift_bind {r : Except Failure α} {f : α → Run Memory β} {P : α → Expr → Prop}
    (hf : ∀ a, r = .ok a → b.Consults (f a) (Named (P a))) :
    b.Consults (Run.lift r >>= f) (Named fun n => ∃ a, r = .ok a ∧ P a n) := by
  refine ((lift r).bind hf).congr ?_
  rw [false_or]
  exact named_of_ok

theorem seq {f : α → Run Memory β} (hx : b.Consults x (Named P))
    (hf : ∀ a, x.outcome .fresh = .ok a → b.Consults (f a) (Named Q)) :
    b.Consults (x >>= f) (Named fun n => P n ∨ ∃ a, x.outcome .fresh = .ok a ∧ Q n) :=
  (hx.bind hf).congr named_seq

theorem named (h : b.Consults x (Named P)) (hQ : ∀ n, Q n ↔ P n) : b.Consults x (Named Q) :=
  h.congr (Named.congr hQ)

theorem none (h : b.Consults x False) (hP : ∀ n, ¬ P n) : b.Consults x (Named P) :=
  h.congr (named_none hP)

end Binding.Consults

namespace Expr

variable {b : Binding} {source : String} {e l r n : Expr}

/-- Evaluating an expression uses the scope for its names. -/
theorem consults_eval (b : Binding) (source : String) (e : Expr) :
    b.Consults (e.eval b source) (Named (e.Evaluates b source)) := by
  -- The node itself is a name, or all names are nodes of its parts.
  induction e with
  | literal v =>
    refine (Binding.Consults.pure v).congr (iff_false_intro ?_)
    rintro ⟨n, ⟨⟩, hn⟩
    contradiction
  | parameter i =>
    refine (Binding.Consults.lift _).congr (iff_false_intro ?_)
    rintro ⟨n, ⟨⟩, hn⟩
    contradiction
  | «variable» name =>
    refine ((Binding.Consults.useScope b).andThen fun s => .lift (s.lookup name)).congr ?_
    exact iff_true_intro ⟨_, .itself _, rfl⟩
  | root name =>
    refine ((Binding.Consults.useScope b).andThen fun s => .lift _).congr ?_
    exact iff_true_intro ⟨_, .itself _, rfl⟩
  | property e name ih =>
    refine (ih.andThen fun v => .lift _).congr ⟨?_, ?_⟩
    · rintro ⟨n, h, hn⟩
      cases h with
      | itself => contradiction
      | property h => exact ⟨n, h, hn⟩
    · rintro ⟨n, h, hn⟩
      exact ⟨n, .property h, hn⟩
  | index e key ih =>
    refine (ih.andThen fun v => .lift _).congr ⟨?_, ?_⟩
    · rintro ⟨n, h, hn⟩
      cases h with
      | itself => contradiction
      | index h => exact ⟨n, h, hn⟩
    · rintro ⟨n, h, hn⟩
      exact ⟨n, .index h, hn⟩
  | add l r ihl ihr =>
    refine (ihl.seq fun v _ => ihr.andThen fun w => .lift (addValues source v w)).congr ⟨?_, ?_⟩
    · rintro ⟨n, h, hn⟩
      cases h with
      | itself => contradiction
      | left h => exact ⟨n, .inl h, hn⟩
      | right hl h =>
        exact ⟨n, .inr ⟨_, ((amountsTo_eval l).outcome b.coherent_fresh).trans hl, h⟩, hn⟩
    · rintro ⟨n, h | ⟨v, hl, h⟩, hn⟩
      · exact ⟨n, .left h, hn⟩
      · exact ⟨n, .right (((amountsTo_eval l).outcome b.coherent_fresh).symm.trans hl) h, hn⟩

end Expr

/-! ### Texts and templates -/

namespace Binding

variable {b : Binding} {n : Expr}

theorem consults_evaluate (b : Binding) (text : String) :
    b.Consults (b.evaluate text) (Named (b.Evaluates text)) :=
  .lift_bind fun e _ => e.consults_eval b text

section

variable {block? : Segment → Option String} {render : Segment → Run Memory String}

theorem evaluatesInSegments_cons {s : Segment} {ss : List Segment} :
    b.EvaluatesInSegments block? render (s :: ss) n ↔
      (∃ src, block? s = some src ∧ b.Evaluates src n) ∨
        ∃ t, (render s).outcome .fresh = .ok t ∧ b.EvaluatesInSegments block? render ss n := by
  constructor
  · intro h
    cases h with
    | here hs h => exact .inl ⟨_, hs, h⟩
    | later hs h => exact .inr ⟨_, hs, h⟩
  · rintro (⟨src, hs, h⟩ | ⟨t, hs, h⟩)
    · exact .here hs h
    · exact .later hs h

theorem not_evaluatesInSegments_nil : ¬ b.EvaluatesInSegments block? render [] n := nofun

theorem exists_block_of_evaluatesInSegments {ss : List Segment}
    (h : b.EvaluatesInSegments block? render ss n) : ∃ s ∈ ss, ∃ src, block? s = some src := by
  induction h with
  | here hs => exact ⟨_, List.mem_cons_self, _, hs⟩
  | later _ _ ih =>
    obtain ⟨s, hs, hsrc⟩ := ih
    exact ⟨s, List.mem_cons_of_mem _ hs, hsrc⟩

/-- Rendering segments uses the scope for the names in their blocks. -/
theorem consults_renderAll (h : ∀ s, b.Consults (render s)
      (Named fun n => ∃ src, block? s = some src ∧ b.Evaluates src n)) (ss : List Segment) :
    b.Consults (renderAll render ss) (Named (b.EvaluatesInSegments block? render ss)) := by
  induction ss with
  | nil => exact (Consults.pure "").none fun n => not_evaluatesInSegments_nil
  | cons s ss ih =>
    refine ((h s).seq fun t _ => ih.andThen fun rest => .pure (t ++ rest)).named fun n => ?_
    exact evaluatesInSegments_cons

end

theorem consults_renderQuoted (b : Binding) (s : Segment) : b.Consults (b.renderQuoted s)
    (Named fun n => ∃ src, s.marked? = some src ∧ b.Evaluates src n) := by
  cases s with
  | expression src =>
    refine ((b.consults_evaluate src).andThen fun v => .lift _).named fun n => ?_
    simp [Segment.marked?]
  | placeholder i =>
    refine ((Consults.lift (b.parameter i)).andThen fun v => .lift _).none fun n => ?_
    simp [Segment.marked?]
  | bare src => exact (Consults.pure _).none fun n => by simp [Segment.marked?]
  | text t => exact (Consults.pure t).none fun n => by simp [Segment.marked?]

theorem consults_renderPlain (b : Binding) (s : Segment) : b.Consults (b.renderPlain s)
    (Named fun n => ∃ src, s.block? = some src ∧ b.Evaluates src n) := by
  cases s with
  | expression src | bare src =>
    refine ((b.consults_evaluate src).andThen fun v => .lift _).named fun n => ?_
    simp [Segment.block?]
  | placeholder i => exact (Consults.pure _).none fun n => by simp [Segment.block?]
  | text t => exact (Consults.pure t).none fun n => by simp [Segment.block?]

theorem consults_interpolate (b : Binding) (content : String) :
    b.Consults (b.interpolate content) (Named (b.EvaluatesInQuoted content)) :=
  .lift_bind fun ss _ => consults_renderAll b.consults_renderQuoted ss

theorem consults_bindString (b : Binding) (content : String) :
    b.Consults (b.bindString content) (Named (b.EvaluatesInQuoted content)) := by
  refine .lift_bind fun ss _ => ?_
  split
  · next i _ =>
    refine ((Consults.lift (b.parameter i)).andThen fun v => .pure v.stored).none fun n => ?_
    simp [evaluatesInSegments_cons, not_evaluatesInSegments_nil, Segment.marked?]
  · next src _ =>
    refine ((b.consults_evaluate src).andThen fun v => .pure v.stored).named fun n => ?_
    simp [evaluatesInSegments_cons, not_evaluatesInSegments_nil, Segment.marked?]
  · exact (consults_renderAll b.consults_renderQuoted _).andThen fun s => .pure (Value.text s)

theorem consults_evaluatePlain (b : Binding) (template : String) :
    b.Consults (b.evaluatePlain template) (Named (b.EvaluatesInPlain template)) := by
  refine .lift_bind fun ss _ => ?_
  split
  · next hnone =>
    refine (Consults.pure _).none fun n h => ?_
    obtain ⟨s, hs, src, hsrc⟩ := exists_block_of_evaluatesInSegments h
    have hblock := List.all_eq_true.mp hnone s hs
    rw [hsrc] at hblock
    contradiction
  · split
    · next src _ _ =>
      refine (b.consults_evaluate src).named fun n => ?_
      simp [evaluatesInSegments_cons, not_evaluatesInSegments_nil, Segment.block?]
    · next src _ _ =>
      refine (b.consults_evaluate src).named fun n => ?_
      simp [evaluatesInSegments_cons, not_evaluatesInSegments_nil, Segment.block?]
    · exact (consults_renderAll b.consults_renderPlain _).andThen fun s => .pure (Value.text s)

theorem consults_bindKey (b : Binding) (key : Template.Key) :
    b.Consults (b.bindKey key) (Named (b.EvaluatesInKey key)) := by
  cases key with
  | name s => exact (Consults.pure s).none fun n => nofun
  | string s =>
    refine (b.consults_interpolate s).named fun n => ⟨?_, .string⟩
    rintro ⟨⟩
    assumption
  | placeholder i =>
    exact ((Consults.lift (b.parameter i)).andThen fun v => .lift _).none fun n => nofun
  | expression src =>
    refine ((b.consults_evaluate src).andThen fun v => .lift _).named
      fun n => ⟨?_, .expression⟩
    rintro ⟨⟩
    assumption

theorem evaluatesInItem_cons {t : Template} {ts : List Template} :
    b.EvaluatesInItem (t :: ts) n ↔
      b.EvaluatesIn t n ∨ ∃ v, (b.bind t).outcome .fresh = .ok v ∧ b.EvaluatesInItem ts n := by
  constructor
  · intro h
    cases h with
    | here h => exact .inl h
    | later ht h => exact .inr ⟨_, ht, h⟩
  · rintro (h | ⟨v, ht, h⟩)
    · exact .here h
    · exact .later ht h

theorem evaluatesInMember_cons {k : Template.Key} {t : Template}
    {ms : List (Template.Key × Template)} :
    b.EvaluatesInMember ((k, t) :: ms) n ↔
      b.EvaluatesInKey k n ∨ ∃ s, (b.bindKey k).outcome .fresh = .ok s ∧
        (b.EvaluatesIn t n ∨
          ∃ v, (b.bind t).outcome .fresh = .ok v ∧ b.EvaluatesInMember ms n) := by
  constructor
  · intro h
    cases h with
    | key h => exact .inl h
    | value hk h => exact .inr ⟨_, hk, .inl h⟩
    | later hk ht h => exact .inr ⟨_, hk, .inr ⟨_, ht, h⟩⟩
  · rintro (h | ⟨s, hk, h | ⟨v, ht, h⟩⟩)
    · exact .key h
    · exact .value hk h
    · exact .later hk ht h

mutual

/-- Binding a template uses the scope for the names it evaluates. -/
theorem consults_bind (b : Binding) (t : Template) :
    b.Consults (b.bind t) (Named (b.EvaluatesIn t)) := by
  cases t with
  | value v => exact (Consults.pure v).none fun n => nofun
  | placeholder i =>
    exact ((Consults.lift (b.parameter i)).andThen fun v => .pure v.stored).none fun n => nofun
  | string s =>
    refine (b.consults_bindString s).named fun n => ⟨?_, .string⟩
    rintro ⟨⟩
    assumption
  | expression src =>
    refine ((b.consults_evaluate src).andThen fun v => .pure v.stored).named fun n =>
      ⟨?_, .expression⟩
    rintro ⟨⟩
    assumption
  | objectId s =>
    refine ((b.consults_bindString s).andThen fun v => .lift _).named fun n => ⟨?_, .objectId⟩
    rintro ⟨⟩
    assumption
  | array items =>
    refine ((consults_bindItems b items).andThen fun xs => .pure (Value.list xs)).named fun n =>
      ⟨?_, .array⟩
    rintro ⟨⟩
    assumption
  | document members =>
    refine ((consults_bindMembers b members).andThen fun es => .lift _).named fun n =>
      ⟨?_, .document⟩
    rintro ⟨⟩
    assumption
termination_by structural t

theorem consults_bindItems (b : Binding) : ∀ ts : List Template,
    b.Consults (b.bindItems ts) (Named (b.EvaluatesInItem ts))
  | [] => (Consults.pure []).none fun n => nofun
  | t :: ts => by
    refine ((consults_bind b t).seq fun v _ => (consults_bindItems b ts).andThen fun vs =>
      .pure (v :: vs)).named fun n => ?_
    exact evaluatesInItem_cons
termination_by structural ts => ts

theorem consults_bindMembers (b : Binding) : ∀ ms : List (Template.Key × Template),
    b.Consults (b.bindMembers ms) (Named (b.EvaluatesInMember ms))
  | [] => (Consults.pure []).none fun n => nofun
  | (k, t) :: ms => by
    refine ((b.consults_bindKey k).seq fun s _ => (consults_bind b t).seq fun v _ =>
      (consults_bindMembers b ms).andThen fun es => .pure ((.text s, v) :: es)).named fun n => ?_
    exact evaluatesInMember_cons
termination_by structural ms => ms

end

theorem consults_decodeValue (b : Binding) (template : String) :
    b.Consults (b.decodeValue template)
      (Named fun n => ∃ t, Template.parse template = .ok t ∧ b.EvaluatesIn t n) :=
  .lift_bind fun t _ => b.consults_bind t

theorem consults_decode (b : Binding) (template : String) : b.Consults (b.decode template)
    (Named fun n => ∃ t, Template.parse template = .ok t ∧ b.EvaluatesIn t n) := by
  refine (b.consults_decodeValue template).andThen fun v => ?_
  split
  · exact .pure v
  · exact .lift _

/-! ### Requests -/

/-- What a binding can be asked. -/
inductive Request where
  | parameter (index : Int)
  | evaluate (text : String)
  | evaluatePlain (template : String)
  | decodeValue (template : String)
  | decode (template : String)

/-- Serves a request. -/
def serve (b : Binding) : Request → Run Memory Value
  | .parameter i => Run.lift (b.parameter i)
  | .evaluate text => b.evaluate text
  | .evaluatePlain template => b.evaluatePlain template
  | .decodeValue template => b.decodeValue template
  | .decode template => b.decode template

/-- Serving the request evaluates the node. -/
def EvaluatesFor (b : Binding) : Request → Expr → Prop
  | .parameter _ => fun _ => False
  | .evaluate text => b.Evaluates text
  | .evaluatePlain template => b.EvaluatesInPlain template
  | .decodeValue template | .decode template => fun n =>
    ∃ t, Template.parse template = .ok t ∧ b.EvaluatesIn t n

/-- Serves requests in order, whether they fail or not; the memory is that of all before. -/
def serveAll (b : Binding) : List Request → Memory → List (Except Failure Value) × Memory
  | [], m => ([], m)
  | q :: qs, m =>
    let (rs, last) := b.serveAll qs ((b.serve q).exec m).2
    ((b.serve q).outcome m :: rs, last)

theorem consults_serve (b : Binding) (q : Request) :
    b.Consults (b.serve q) (Named (b.EvaluatesFor q)) := by
  cases q with
  | parameter i => exact (Consults.lift _).none fun n => id
  | evaluate text => exact b.consults_evaluate text
  | evaluatePlain template => exact b.consults_evaluatePlain template
  | decodeValue template => exact b.consults_decodeValue template
  | decode template => exact b.consults_decode template

section

variable {qs : List Request} {m : Memory}

theorem outcomes_serveAll (b : Binding) (qs : List Request) (hm : b.Coherent m) :
    (b.serveAll qs m).1 = qs.map fun q => (b.serve q).outcome .fresh := by
  induction qs generalizing m with
  | nil => rfl
  | cons q qs ih =>
    have hq := b.consults_serve q
    rw [serveAll, List.map_cons, ← hq.steady m hm, ← ih (hq.coherent hm)]

theorem memory_serveAll_cons (q : Request) :
    (b.serveAll (q :: qs) m).2 = (b.serveAll qs ((b.serve q).exec m).2).2 := rfl

/-- Without names, the memory is left alone. -/
theorem serveAll_rests (h : ∀ q ∈ qs, ¬ Named (b.EvaluatesFor q)) (hm : b.Coherent m) :
    (b.serveAll qs m).2 = m := by
  induction qs with
  | nil => rfl
  | cons q qs ih =>
    obtain ⟨hq, hqs⟩ := List.forall_mem_cons.mp h
    rw [memory_serveAll_cons, (b.consults_serve q).rests hq m hm]
    exact ih hqs

/-- As soon as there is a name, the scope is used. -/
theorem serveAll_uses (h : ∃ q ∈ qs, Named (b.EvaluatesFor q)) (hm : b.Coherent m) :
    (b.serveAll qs m).2 = b.used m := by
  induction qs generalizing m with
  | nil => simp at h
  | cons q qs ih =>
    have hq := b.consults_serve q
    rw [memory_serveAll_cons]
    by_cases hlater : ∃ q ∈ qs, Named (b.EvaluatesFor q)
    · rw [ih hlater (hq.coherent hm)]
      by_cases hnow : Named (b.EvaluatesFor q)
      · rw [hq.uses hnow m hm, used_used]
      · rw [hq.rests hnow m hm]
    · have hnow : Named (b.EvaluatesFor q) := by
        obtain ⟨q', hmem, hn⟩ := h
        rcases List.mem_cons.mp hmem with rfl | hmem
        · exact hn
        · exact absurd ⟨q', hmem, hn⟩ hlater
      rw [hq.uses hnow m hm]
      exact serveAll_rests (fun q hq hn => hlater ⟨q, hq, hn⟩) (coherent_used hm)

end

/-- Whatever a binding is asked, in whatever order and with whatever failures: every request has the
    outcome that it has on a fresh binding; the scope is built once at most; and after any number of
    requests it is built if and only if one of them evaluated a variable or a bare name. -/
theorem scope_is_built_once (b : Binding) (qs : List Request) :
    (b.serveAll qs .fresh).1 = (qs.map fun q => (b.serve q).outcome .fresh) ∧
    ∀ k, (b.serveAll (qs.take k) .fresh).2.built ≤ 1 ∧
      ((b.serveAll (qs.take k) .fresh).2.built = 1 ↔
        ∃ q ∈ qs.take k, ∃ n, b.EvaluatesFor q n ∧ n.isName = true) := by
  refine ⟨b.outcomes_serveAll qs b.coherent_fresh, fun k => ?_⟩
  by_cases h : ∃ q ∈ qs.take k, Named (b.EvaluatesFor q)
  · have hbuilt : (b.serveAll (qs.take k) .fresh).2.built = 1 := by
      rw [serveAll_uses h b.coherent_fresh]
      rfl
    exact ⟨hbuilt.le, fun _ => h, fun _ => hbuilt⟩
  · have hbuilt : (b.serveAll (qs.take k) .fresh).2.built = 0 := by
      rw [serveAll_rests (fun q hq hn => h ⟨q, hq, hn⟩) b.coherent_fresh]
      rfl
    rw [hbuilt]
    exact ⟨Nat.zero_le 1, fun h0 => absurd h0 Nat.zero_ne_one, fun hn => absurd hn h⟩

/-- A name behind an operand that has no value is not evaluated. -/
example : (serveAll ⟨.map [], .null, []⟩ [.evaluate "[0] + name"] .fresh).2.built = 0 := by
  with_unfolding_all rfl

end Binding

end LinkedDocs
