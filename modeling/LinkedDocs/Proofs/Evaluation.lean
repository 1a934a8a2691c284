import LinkedDocs.Proofs.ExpressionGrammar
import LinkedDocs.Proofs.Outcomes
import LinkedDocs.Reference.Context

/-! Evaluation without a memory.

    The memory of a binding keeps the scope once it is built, and nothing else. So an expression has
    one value for a binding, whatever was evaluated before, and the value is read off the reference,
    the scope and the literals of the expression: by properties and indexes, and by adding up. What
    reading and adding up hand on is then a property of every value. A template is made of texts and
    expressions, and so it has one value, too. -/

namespace LinkedDocs

open Value (Entries)

theorem mem_of_lookup {α : Type} {fs : List (String × α)} {name : String} {a : α}
    (h : fs.lookup name = some a) : (name, a) ∈ fs := by
  obtain ⟨front, rest, rfl, -⟩ := List.lookup_eq_some_iff.1 h
  exact List.mem_append_right _ List.mem_cons_self

/-- An attribute is the value's own, the mark of its type, or one that its type brings. -/
theorem Value.attribute?_eq_some {v x : Value} {name : String} (h : v.attribute? name = some x) :
    v.ownAttribute? name = some x ∨ (∃ n, x = .int n) ∨ Member.find? v name = some x := by
  unfold attribute? at h
  split at h
  · next y hy =>
    cases h
    exact .inl hy
  · split at h
    · obtain ⟨n, -, rfl⟩ := Option.map_eq_some_iff.1 h
      exact .inr (.inl ⟨n, rfl⟩)
    · exact .inr (.inr h)

/-- A memory that holds no scope but the binding's own. -/
def Binding.Coherent (b : Binding) (m : Binding.Memory) : Prop := ∀ s ∈ m.scope, s = b.scope

theorem Binding.coherent_fresh (b : Binding) : b.Coherent .fresh := by
  intro s hs
  contradiction

theorem Binding.exec_useScope {b : Binding} {m : Binding.Memory} (hm : b.Coherent m) :
    ∃ m', b.Coherent m' ∧ b.useScope.exec m = (.ok b.scope, m') := by
  rw [useScope, Run.exec_of]
  cases h : m.scope with
  | none => exact ⟨_, fun s hs => (Option.some.inj hs).symm, rfl⟩
  | some s =>
    obtain rfl := hm s h
    exact ⟨m, hm, rfl⟩

namespace Expr

/-- The value of an expression for a binding. -/
def value (b : Binding) (source : String) : Expr → Except Failure Value
  | .literal v => .ok v
  | .variable name => b.scope.lookup name
  | .root name => readProperty source b.scope.root name
  | .parameter i => b.parameter i
  | .property target name => do
    let v ← value b source target
    readProperty source v name
  | .index target key => do
    let v ← value b source target
    readItem source v key
  | .add left right => do
    let l ← value b source left
    let r ← value b source right
    addValues source l r

section

variable {b : Binding} {source : String}

/-- Evaluating an expression gives its value and keeps the memory coherent. -/
theorem amountsTo_eval (e : Expr) : Run.AmountsTo b.Coherent (e.eval b source) (e.value b source) := by
  have scope : Run.AmountsTo b.Coherent b.useScope (.ok b.scope) := fun _ => Binding.exec_useScope
  -- Reading and adding up do not touch the memory; only names may build the scope.
  induction e with
  | literal v => exact .pure v
  | «variable» name => exact scope.bind fun s => .lift (s.lookup name)
  | root name => exact scope.bind fun s => .lift (readProperty source s.root name)
  | parameter i => exact .lift _
  | property target name ih => exact ih.bind fun v => .lift (readProperty source v name)
  | index target key ih => exact ih.bind fun v => .lift (readItem source v key)
  | add left right ihl ihr =>
    exact ihl.bind fun l => ihr.bind fun r => .lift (addValues source l r)

end

/-! ### Texts in a row -/

theorem operandText_eq_error {v : Value} {m : Misuse} :
    operandText v = .error m ↔ m = .content ∧ v.isWritable = false := by
  unfold operandText Value.written Value.writtenAs
  split
  · next null =>
    have written : v.isWritable = true := by cases v <;> first | rfl | cases null
    simp [written]
  · cases hw : v.isWritable <;> simp [eq_comm]

/-- Two texts in a row make up one, unless one of them cannot be written. -/
theorem joinTexts_cases (v w : Value) : (∃ s, joinTexts v w = .ok (.text s)) ∨
    joinTexts v w = .error .content ∧ (v.isWritable = false ∨ w.isWritable = false) := by
  unfold joinTexts
  cases hv : operandText v with
  | error m =>
    obtain ⟨rfl, long⟩ := operandText_eq_error.1 hv
    exact .inr ⟨rfl, .inl long⟩
  | ok s =>
    cases hw : operandText w with
    | error m =>
      obtain ⟨rfl, long⟩ := operandText_eq_error.1 hw
      exact .inr ⟨rfl, .inr long⟩
    | ok t => exact .inl ⟨_, rfl⟩

/-! ### Expressions that are read -/

/-- What can be written as a single token. -/
inductive IsLiteral : Value → Prop
  | null : IsLiteral .null
  | bool (b : Bool) : IsLiteral (.bool b)
  | int (n : Int) : IsLiteral (.int n)
  | float (x : Float) : IsLiteral (.float x)
  | text (s : String) : IsLiteral (.text s)

/-- Every literal can be written. -/
inductive IsWritten : Expr → Prop
  | literal {v : Value} (h : IsLiteral v) : IsWritten (.literal v)
  | variable (name : String) : IsWritten (.variable name)
  | root (name : String) : IsWritten (.root name)
  | parameter (i : Int) : IsWritten (.parameter i)
  | property {e : Expr} (h : IsWritten e) (name : String) : IsWritten (.property e name)
  | index {e : Expr} (h : IsWritten e) (key : Key) : IsWritten (.index e key)
  | add {l r : Expr} (hl : IsWritten l) (hr : IsWritten r) : IsWritten (.add l r)

theorem WritesOperand.isWritten {e : Expr} {a : Token} (h : WritesOperand e a) : e.IsWritten := by
  cases h with
  | integer n => exact .literal (.int n)
  | float x => exact .literal (.float x)
  | text s => exact .literal (.text s)
  | keyword k => cases k <;> exact .literal (by constructor)
  | «variable» name => exact .variable name
  | root name => exact .root name

mutual

theorem Yields.isWritten : ∀ {e : Expr} {ts : List Token}, Yields e ts → e.IsWritten
  | _, _, .term h => h.isWritten
  | _, _, .add hl hr => .add hl.isWritten hr.isWritten

theorem YieldsTerm.isWritten : ∀ {e : Expr} {ts : List Token}, YieldsTerm e ts → e.IsWritten
  | _, _, .operand h => h.isWritten
  | _, _, .parameter n => .parameter n
  | _, _, .property h name => .property h.isWritten name
  | _, _, @YieldsTerm.index _ _ key _ h _ => .index h.isWritten key
  | _, _, .group h => h.isWritten

end

theorem isWritten_of_parse {source : String} {e : Expr} (h : parse source = .ok e) :
    e.IsWritten := by
  obtain ⟨ts, -, hts⟩ := parse_eq_ok.1 h
  exact hts.isWritten

/-! ### What reading hands on -/

/-- A property of literals that reading and adding up hand on. -/
structure IsPassedOn (Q : Value → Prop) : Prop where
  literal {v : Value} (h : IsLiteral v) : Q v
  entry {v : Value} {es : Entries} {e : Value × Value} (h : Q v) (hes : v.entries? = some es)
    (he : e ∈ es) : Q e.2
  item {v x : Value} {xs : List Value} (h : Q v) (hxs : indexed? v = some xs) (hx : x ∈ xs) : Q x
  part {v x : Value} {name : String} (h : Q v) (hx : v.attribute? name = some x) : Q x
  sum {v w x : Value} (hv : Q v) (hw : Q w) (hx : Value.apply .add v w = .ok x) : Q x

end Expr

section

variable {Q : Value → Prop} {b : Binding} {source : String}

/-- The reference value and the values of the scope have the property. -/
structure Binding.Holds (b : Binding) (Q : Value → Prop) : Prop where
  source : Q b.source
  root : Q b.scope.root
  bound : ∀ v ∈ b.scope.bound, Q v.2

/-- All that a lookup binds is the reference value. -/
theorem Property.holds_binding (p : Property) {v : Value} (h : Q v) : (p.binding v).Holds Q where
  source := h
  root := h
  bound := by simp [Property.binding, h]

namespace Expr.IsPassedOn

theorem get? (hQ : IsPassedOn Q) {v : Value} {es : Entries} (h : Q v) (hes : v.entries? = some es)
    (k : Value) : Q ((es.get? k).getD .null) := by
  cases hk : es.get? k with
  | none => exact hQ.literal .null
  | some x =>
    obtain ⟨e, he, rfl⟩ := Option.map_eq_some_iff.1 hk
    exact hQ.entry h hes (List.mem_of_find?_eq_some he)

theorem readProperty (hQ : IsPassedOn Q) {v : Value} (h : Q v) (name : String) :
    Gives (readProperty source v name) Q := by
  unfold Expr.readProperty
  split
  · exact .error _
  · split
    · next es hes => exact .ok (hQ.get? h hes _)
    · split
      · next x hx => exact .ok (hQ.part h hx)
      · exact .error _

theorem readItem (hQ : IsPassedOn Q) {v : Value} (h : Q v) (key : Key) :
    Gives (readItem source v key) Q := by
  unfold Expr.readItem
  split
  · next es hes => exact .ok (hQ.get? h hes _)
  · split
    · next xs i _ hxs =>
      split
      · next x hx =>
        obtain ⟨j, -, hj⟩ := Option.bind_eq_some_iff.1 hx
        exact .ok (hQ.item h hxs (List.mem_of_getElem? hj))
      · exact .error _
    · exact .error _

theorem addValues (hQ : IsPassedOn Q) {v w : Value} (hv : Q v) (hw : Q w) :
    Gives (addValues source v w) Q := by
  unfold Expr.addValues
  split
  · rcases joinTexts_cases v w with ⟨s, hs⟩ | ⟨long, -⟩
    · rw [hs]
      exact .ok (hQ.literal (.text s))
    · rw [long]
      exact .error _
  · split
    · next x hx => exact .ok (hQ.sum hv hw hx)
    · exact .error _
    · exact .error _

theorem parameter (hQ : IsPassedOn Q) (hb : b.Holds Q) (i : Int) : Gives (b.parameter i) Q := by
  unfold Binding.parameter
  split
  · exact .ok hb.source
  · next es hes =>
    split
    · exact .error _
    · simp only
      generalize (if i < 0 then i + (es.length : Int) else i) = j
      split
      · next e he =>
        split at he
        · contradiction
        · exact .ok (hQ.entry hb.source hes (List.mem_of_getElem? he))
      · exact .error _

theorem lookup (hb : b.Holds Q) (name : String) : Gives (b.scope.lookup name) Q := by
  unfold Scope.lookup
  split
  · next v hv =>
    exact .ok (hb.bound (name, v) (mem_of_lookup hv))
  · split
    · exact .ok hb.root
    · exact .error _

/-- Whatever has the property, the value of an expression has it. -/
theorem value (hQ : IsPassedOn Q) (hb : b.Holds Q) {e : Expr} (he : e.IsWritten) :
    Gives (e.value b source) Q := by
  induction he with
  | literal h => exact .ok (hQ.literal h)
  | «variable» name => exact lookup hb name
  | root name => exact hQ.readProperty hb.root name
  | parameter i => exact hQ.parameter hb i
  | property _ name ih => exact ih.bind fun _ hv => hQ.readProperty hv name
  | index _ key ih => exact ih.bind fun _ hv => hQ.readItem hv key
  | add _ _ ihl ihr =>
    refine ihl.bind ?_
    intro v hv
    refine ihr.bind ?_
    intro w hw
    exact hQ.addValues hv hw

end Expr.IsPassedOn

/-- A text is read, and then gives the value of what it spells. -/
theorem Binding.amountsTo_evaluate (text : String) :
    Run.AmountsTo b.Coherent (b.evaluate text) (Expr.parse text >>= Expr.value b text) :=
  Run.AmountsTo.bind (.lift _) Expr.amountsTo_eval

theorem Binding.steady_evaluate (b : Binding) (text : String) :
    Run.Steady b.Coherent (b.evaluate text) := ⟨_, amountsTo_evaluate text⟩

theorem Binding.outcome_evaluate {memory : Binding.Memory} (hm : b.Coherent memory)
    (text : String) : (b.evaluate text).outcome memory = Expr.parse text >>= Expr.value b text :=
  (amountsTo_evaluate text).outcome hm

/-- Whatever has the property, what a text evaluates to has it. -/
theorem Binding.Holds.evaluate (hb : b.Holds Q) (hQ : Expr.IsPassedOn Q) (text : String) :
    Run.Gives b.Coherent (b.evaluate text) Q := by
  refine (Run.Gives.lift fun _ => Expr.isWritten_of_parse).bind ?_
  intro e he m hm
  obtain ⟨m', hm', hrun⟩ := Expr.amountsTo_eval e m hm
  rw [hrun]
  exact ⟨hm', hQ.value hb he⟩

end

/-! ### Templates without a memory -/

namespace Binding

variable {b : Binding} {I : Memory → Prop}

theorem steady_renderAll {f : Segment → Run Memory String} (h : ∀ s, Run.Steady I (f s))
    (ss : List Segment) : Run.Steady I (renderAll f ss) := by
  induction ss with
  | nil => exact .pure ""
  | cons s ss ih => exact (h s).bind fun x => ih.bind fun rest => .pure (x ++ rest)

variable (b)

theorem steady_renderQuoted (s : Segment) : Run.Steady b.Coherent (b.renderQuoted s) := by
  cases s with
  | placeholder n => exact Run.Steady.bind (.lift _) fun v => .lift _
  | expression src => exact (b.steady_evaluate src).bind fun v => .lift _
  | bare src => exact .pure _
  | text t => exact .pure t

theorem steady_renderPlain (s : Segment) : Run.Steady b.Coherent (b.renderPlain s) := by
  cases s with
  | placeholder n => exact .pure _
  | expression src | bare src => exact (b.steady_evaluate src).bind fun v => .lift _
  | text t => exact .pure t

theorem steady_interpolate (content : String) : Run.Steady b.Coherent (b.interpolate content) :=
  Run.Steady.bind (.lift _) fun ss => steady_renderAll b.steady_renderQuoted ss

theorem steady_bindString (content : String) : Run.Steady b.Coherent (b.bindString content) := by
  refine Run.Steady.bind (.lift _) fun ss => ?_
  split
  · exact Run.Steady.bind (.lift _) fun v => .pure _
  · exact (b.steady_evaluate _).bind fun v => .pure _
  · exact (steady_renderAll b.steady_renderQuoted _).bind fun s => .pure _

theorem steady_bindKey (key : Template.Key) : Run.Steady b.Coherent (b.bindKey key) := by
  cases key with
  | name s => exact .pure s
  | string s => exact b.steady_interpolate s
  | placeholder n => exact Run.Steady.bind (.lift _) fun v => .lift _
  | expression src => exact (b.steady_evaluate src).bind fun v => .lift _

mutual

theorem steady_bind (t : Template) : Run.Steady b.Coherent (b.bind t) := by
  cases t with
  | value v => exact .pure v
  | string s => exact b.steady_bindString s
  | placeholder n => exact Run.Steady.bind (.lift _) fun v => .pure _
  | expression src => exact (b.steady_evaluate src).bind fun v => .pure _
  | objectId s => exact (b.steady_bindString s).bind fun v => .lift _
  | array items => exact (steady_bindItems items).bind fun xs => .pure _
  | document members => exact (steady_bindMembers members).bind fun es => .lift _
termination_by structural t

theorem steady_bindItems : ∀ ts : List Template, Run.Steady b.Coherent (b.bindItems ts)
  | [] => .pure []
  | t :: ts => (steady_bind t).bind fun v => (steady_bindItems ts).bind fun vs => .pure (v :: vs)
termination_by structural ts => ts

theorem steady_bindMembers : ∀ ms : List (Template.Key × Template),
    Run.Steady b.Coherent (b.bindMembers ms)
  | [] => .pure []
  | (k, t) :: ms => (b.steady_bindKey k).bind fun k => (steady_bind t).bind fun v =>
    (steady_bindMembers ms).bind fun es => .pure ((.text k, v) :: es)
termination_by structural ms => ms

end

theorem steady_decodeValue (template : String) : Run.Steady b.Coherent (b.decodeValue template) :=
  Run.Steady.bind (.lift _) fun t => b.steady_bind t

theorem steady_evaluatePlain (template : String) :
    Run.Steady b.Coherent (b.evaluatePlain template) := by
  refine Run.Steady.bind (.lift _) fun ss => ?_
  split
  · exact .pure _
  · split
    · exact b.steady_evaluate _
    · exact b.steady_evaluate _
    · exact (steady_renderAll b.steady_renderPlain _).bind fun s => .pure _

end Binding

end LinkedDocs
