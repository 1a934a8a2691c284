import LinkedDocs.Proofs.Requests
import LinkedDocs.Proofs.StoreRuns

/-! Exchanges with a database client.

    Every call to a client is a question with an answer: for a database, a collection, one record,
    or a cursor that is sorted and read step by step. Whatever the client does, a lookup puts its
    questions in one fixed order, up to the first that fails. If all are answered, the outcome is
    what the client gave, in its order; else the failure of the last one is the outcome, an error of
    the database as a failed lookup. The sort keys asked for fall where a store in memory sorts
    down. -/

namespace LinkedDocs

/-! ### Directions -/

namespace Store

/-- In memory, documents stand in falling order of their values, ties as they were. -/
def SortsDown (direction : Value) : Prop := ∀ field docs, ComparableBy field docs →
  ∃ ys, sortBy field direction docs = .ok ys ∧ Arranged (compareBy field true) docs ys

/-- Sorting two numbers shows the direction. -/
theorem sortsDown_iff {direction : Value} :
    SortsDown direction ↔ isDescending direction = true := by
  constructor
  · intro h
    let rising : List Value := [.map [(.text "n", .int 1)], .map [(.text "n", .int 2)]]
    have comparable : ComparableBy (.text "n") rising := by
      refine comparableBy_int fun d hd => ?_
      rcases List.mem_pair.1 hd with rfl | rfl
      · exact ⟨some 1, rfl⟩
      · exact ⟨some 2, rfl⟩
    obtain ⟨ys, hys, arranged⟩ := h _ _ comparable
    cases down : isDescending direction with
    | true => rfl
    | false =>
      have unmoved : sortBy (.text "n") direction rising = .ok rising := by
        rw [sortBy, down]
        rfl
      obtain rfl := Except.ok.inj (hys.symm.trans unmoved)
      have falling := List.rel_of_pairwise_cons arranged.ascending (List.mem_singleton_self _)
      exact absurd rfl falling
  · intro down field docs comparable
    obtain ⟨κ, _, rank, hcompare, hsort⟩ := sortBy_eq direction comparable
    obtain ⟨ys, hys, stable⟩ := hsort docs (List.Subset.refl docs)
    rw [down] at hcompare
    exact ⟨ys, hys, .of_stableOrder hcompare stable⟩

end Store

namespace Remote

/-! ### Exchanges -/

/-- Documents that are looked for: those of a collection that a filter matches, in an order. -/
structure Search where
  database : Value
  collection : Value
  filter : Value
  keys : Option SortKeys

/-- A question to a client. -/
inductive Question where
  | database (name : Value)
  | collection (database name : Value)
  | findOne (search : Search)
  | find (search : Search)
  | sort (search : Search)
  /-- A step of reading a cursor, by its index and the number of all steps. -/
  | step (search : Search) (index count : Nat)

/-- What a client answers with. -/
inductive Answer where
  /-- A handle on a database or a collection. -/
  | handle
  /-- A cursor with so many steps. -/
  | cursor (steps : Nat)
  | records (vs : List Value)

def Answer.given : Answer → List Value
  | .handle | .cursor _ => []
  | .records vs => vs

/-- A question, with its answer or its failure. -/
structure Exchange where
  question : Question
  answer : Except ClientError Answer

namespace Exchange

def IsAnswered (x : Exchange) : Prop := ∃ a, x.answer = .ok a

def records (x : Exchange) : List Value :=
  match x.answer with
  | .ok a => a.given
  | .error _ => []

/-- The steps of the cursor at hand, after an exchange. -/
def cursorSteps (steps : Nat) (x : Exchange) : Nat :=
  match x.answer with
  | .ok (.cursor n) => n
  | _ => steps

end Exchange

/-- The steps of the last cursor that the client gave. -/
def cursorSteps (log : List Exchange) : Nat := log.foldl Exchange.cursorSteps 0

variable {σ δ κ γ α β α' β' : Type}

namespace Call

/-- The outcome of a call and the client's state after it. -/
def exec (x : Call σ α) (s : σ) : Except ClientError α × σ := (ExceptT.run x).run s

/-- The call, with a name put on what it gives, and written down. -/
def recorded (question : Question) (answer : α → Answer) (tag : α → α') (x : Call σ α) :
    Call (Watched σ Exchange) α' := ExceptT.mk fun w =>
  ((x.exec w.state).1.map tag,
    ⟨(x.exec w.state).2, w.requests ++ [⟨question, (x.exec w.state).1.map answer⟩]⟩)

end Call

/-- The client, whose calls are written down, a cursor with the number of its steps. Its handles
    carry the names they were asked for by. -/
def Client.recorded (client : Client σ δ κ γ) :
    Client (Watched σ Exchange) (Value × δ) ((Value × Value) × κ) (Search × γ) where
  database name := (client.database name).recorded (.database name) (fun _ => .handle) (name, ·)
  collection d name := (client.collection d.2 name).recorded (.collection d.1 name)
    (fun _ => .handle) ((d.1, name), ·)
  findOne k filter keys := (client.findOne k.2 filter keys).recorded
    (.findOne ⟨k.1.1, k.1.2, filter, keys⟩) (fun v => .records v.toList) id
  find k filter :=
    let search := ⟨k.1.1, k.1.2, filter, none⟩
    (client.find k.2 filter).recorded (.find search)
      (fun cursor => .cursor (client.steps cursor).length) (search, ·)
  sort cursor keys :=
    let search := { cursor.1 with keys := some keys }
    (client.sort cursor.2 keys).recorded (.sort search)
      (fun cursor => .cursor (client.steps cursor).length) (search, ·)
  steps cursor :=
    let steps := client.steps cursor.2
    steps.mapIdx fun i step =>
      step.recorded (.step cursor.1 i steps.length) (fun v => .records [v]) id

def Loader.recorded (l : Loader σ δ κ γ) :
    Loader (Watched σ Exchange) (Value × δ) ((Value × Value) × κ) (Search × γ) :=
  ⟨l.client.recorded, l.database, l.collection⟩

/-- The questions of a plan were put up to the first that failed. If all were answered, the outcome
    is all their records in order; else the last one failed, and the outcome is the report of
    that. -/
inductive Concludes {ε : Type} (report : ClientError → ε) (plan : List Question)
    (log : List Exchange) : Except ε (List Value) → Prop
  | answered {vs : List Value} (asked : log.map (·.question) = plan)
    (answered : ∀ x ∈ log, x.IsAnswered) (given : log.flatMap Exchange.records = vs) :
    Concludes report plan log (.ok vs)
  | failed {front : List Exchange} {x : Exchange} {e : ClientError}
    (asked : log.map (·.question) <+: plan) (last : log = front ++ [x])
    (answered : ∀ y ∈ front, y.IsAnswered) (failure : x.answer = .error e) :
    Concludes report plan log (.error (report e))

/-! ### Calls in sequence -/

namespace Call

@[simp] theorem exec_pure (a : α) (s : σ) : (pure a : Call σ α).exec s = (.ok a, s) := rfl

theorem exec_bind (x : Call σ α) (f : α → Call σ β) (s : σ) :
    (x >>= f).exec s =
      match x.exec s with
      | (.ok a, s) => (f a).exec s
      | (.error e, s) => (.error e, s) := by
  simp only [exec, ExceptT.run_bind, StateT.run_bind]
  show (do let p ← ((ExceptT.run x).run s : Id _); _) = _
  rcases h : (ExceptT.run x).run s with ⟨r, s'⟩
  cases r <;> rfl

theorem exec_recorded {x : Call σ α} {s s' : σ} {r : Except ClientError α} (h : x.exec s = (r, s'))
    (question : Question) (answer : α → Answer) (tag : α → α') (log : List Exchange) :
    (x.recorded question answer tag).exec ⟨s, log⟩
      = (r.map tag, ⟨s', log ++ [⟨question, r.map answer⟩]⟩) := by
  change ((x.exec s).1.map tag,
    Watched.mk (x.exec s).2 (log ++ [⟨question, (x.exec s).1.map answer⟩])) = _
  rw [h]

end Call

namespace Concludes

variable {ε : Type} {plan plan' : List Question} {log log' : List Exchange}

theorem single (question : Question) (answer : α → Answer) (r : Except ClientError α) :
    Concludes id [question] [⟨question, r.map answer⟩] (r.map fun a => (answer a).given) := by
  cases r with
  | error e =>
    have last : [⟨question, .error e⟩] = [] ++ [Exchange.mk question (.error e)] := rfl
    exact .failed (List.prefix_refl _) last (List.forall_mem_nil _) rfl
  | ok a =>
    refine .answered rfl ?_ (List.append_nil _)
    exact List.forall_mem_singleton.2 ⟨_, rfl⟩

/-- Behind answers the exchanges go on. -/
theorem append {vs : List Value} {r : Except ClientError (List Value)}
    (h : Concludes id plan log (.ok vs)) (h' : Concludes id plan' log' r) :
    Concludes id (plan ++ plan') (log ++ log') (r.map (vs ++ ·)) := by
  obtain ⟨asked, answered, given⟩ := h
  cases h' with
  | answered asked' answered' given' =>
    refine .answered ?_ (List.forall_mem_append.2 ⟨answered, answered'⟩) ?_
    · rw [List.map_append, asked, asked']
    · rw [List.flatMap_append, given, given']
  | failed asked' last answered' failure =>
    refine .failed ?_ ?_ (List.forall_mem_append.2 ⟨answered, answered'⟩) failure
    · rw [List.map_append, asked, List.prefix_append_right_inj]
      exact asked'
    · rw [last, List.append_assoc]

/-- Behind a failure nothing is asked. -/
theorem stop {e : ClientError} (h : Concludes id plan log (.error e)) (plan' : List Question) :
    Concludes id (plan ++ plan') log (.error e) := by
  cases h with
  | failed asked last answered failure =>
    exact .failed (asked.trans (List.prefix_append plan plan')) last answered failure

theorem reported {r : Except ClientError (List Value)} (h : Concludes id plan log r)
    (report : ClientError → ε) : Concludes report plan log (r.mapError report) := by
  cases h with
  | answered asked answered given => exact .answered asked answered given
  | failed asked last answered failure => exact .failed asked last answered failure

end Concludes

/-- From any state the second call does what the first does, with names on the handles, and writes
    its exchanges down. With a cursor of `held` steps at hand, what is given and the steps of the
    last cursor then are as `After` says; the plan of the questions depends on those steps. -/
def Conducts (held : Nat) (After : α → Nat → Prop) (plan : Nat → List Question) (x : Call σ α)
    (x' : Call (Watched σ Exchange) α') (tag : α → α') (given : α → List Value) : Prop :=
  ∀ s log, ∃ r s' es, x.exec s = (r, s') ∧ x'.exec ⟨s, log⟩ = (r.map tag, ⟨s', log ++ es⟩) ∧
    (∀ a, r = .ok a → After a (es.foldl Exchange.cursorSteps held)) ∧
    Concludes id (plan (es.foldl Exchange.cursorSteps held)) es (r.map given)

namespace Conducts

theorem recorded (held : Nat) (question : Question) (answer : α → Answer) (tag : α → α')
    (x : Call σ α) :
    Conducts held (fun a n => n = Exchange.cursorSteps held ⟨question, .ok (answer a)⟩)
      (fun _ => [question]) x (x.recorded question answer tag) tag fun a => (answer a).given := by
  intro s log
  rcases hx : x.exec s with ⟨r, s'⟩
  refine ⟨r, s', _, rfl, Call.exec_recorded hx .., ?_, .single question answer r⟩
  rintro a rfl
  rfl

theorem handle (held : Nat) (question : Question) (tag : α → α') (x : Call σ α) :
    Conducts held (fun _ n => n = held) (fun _ => [question]) x
      (x.recorded question (fun _ => .handle) tag) tag fun _ => [] :=
  recorded held question (fun _ => .handle) tag x

theorem records (held : Nat) (question : Question) (records : α → List Value) (tag : α → α')
    (x : Call σ α) :
    Conducts held (fun _ _ => True) (fun _ => [question]) x
      (x.recorded question (fun a => .records (records a)) tag) tag records := by
  intro s log
  obtain ⟨r, s', es, hrun, hrun', -, concludes⟩ :=
    recorded held question (fun a => .records (records a)) tag x s log
  exact ⟨r, s', es, hrun, hrun', fun _ _ => trivial, concludes⟩

theorem cursor (held : Nat) (question : Question) (steps : α → Nat) (tag : α → α')
    (x : Call σ α) :
    Conducts held (fun a n => n = steps a) (fun _ => [question]) x
      (x.recorded question (fun a => .cursor (steps a)) tag) tag fun _ => [] :=
  recorded held question (fun a => .cursor (steps a)) tag x

/-- A handle is asked for, and then something of it. -/
theorem bind {held : Nat} {After : α → Nat → Prop} {After' : β → Nat → Prop}
    {plan : List Question} {plan' : Nat → List Question} {x : Call σ α}
    {x' : Call (Watched σ Exchange) α'} {f : α → Call σ β}
    {f' : α' → Call (Watched σ Exchange) β'} {tag : α → α'} {tag' : β → β'}
    {given : β → List Value} (h : Conducts held After (fun _ => plan) x x' tag fun _ => [])
    (hf : ∀ a n, After a n → Conducts n After' plan' (f a) (f' (tag a)) tag' given) :
    Conducts held After' (fun n => plan ++ plan' n) (x >>= f) (x' >>= f') tag' given := by
  intro s log
  obtain ⟨r, s', es, hrun, hrun', after, concludes⟩ := h s log
  rw [Call.exec_bind, Call.exec_bind, hrun, hrun']
  cases r with
  | error e =>
    refine ⟨.error e, s', es, rfl, rfl, fun b hb => ?_, concludes.stop _⟩
    cases hb
  | ok a =>
    obtain ⟨r, s'', es', hrun, hrun', after', concludes'⟩ := hf a _ (after a rfl) s' (log ++ es)
    rw [← List.foldl_append] at after' concludes'
    refine ⟨r, s'', es ++ es', hrun, ?_, after', ?_⟩
    · rw [← List.append_assoc]
      exact hrun'
    · have behind := concludes.append concludes'
      cases r <;> exact behind

/-- The steps of a cursor are asked for up to its end or to the first that fails, and the records
    are what they gave. No other cursor is given meanwhile. -/
theorem readAll (search : Search) (count : Nat) (steps : List (Call σ Value)) :
    ∀ first s log, ∃ r s' es, (readAll steps).exec s = (r, s') ∧
      (readAll (steps.mapIdx fun i step =>
        step.recorded (.step search (first + i) count) (fun v => .records [v]) id)).exec ⟨s, log⟩
        = (r, ⟨s', log ++ es⟩) ∧
      es.foldl Exchange.cursorSteps count = count ∧
      Concludes id ((List.range' first steps.length).map (.step search · count)) es r := by
  induction steps with
  | nil =>
    intro first s log
    refine ⟨.ok [], s, [], rfl, ?_, rfl, .answered rfl (List.forall_mem_nil _) rfl⟩
    rw [List.append_nil]
    rfl
  | cons step steps ih =>
    intro first s log
    have shifted : (fun (i : Nat) (step : Call σ Value) =>
          step.recorded (.step search (first + (i + 1)) count) (fun v => .records [v]) id)
        = fun i step =>
          step.recorded (.step search (first + 1 + i) count) (fun v => .records [v]) id := by
      funext i step
      rw [Nat.add_right_comm, Nat.add_assoc]
    rw [List.mapIdx_cons, shifted, LinkedDocs.Remote.readAll, LinkedDocs.Remote.readAll,
      Call.exec_bind, Call.exec_bind, List.length_cons, List.range'_succ, List.map_cons]
    rcases hstep : step.exec s with ⟨r, s'⟩
    have here := Concludes.single (.step search first count) (fun v => .records [v]) r
    rw [Call.exec_recorded hstep]
    cases r with
    | error e => exact ⟨.error e, s', _, rfl, rfl, rfl, here.stop _⟩
    | ok v =>
      obtain ⟨r, s'', es, hrun, hrun', held, rest⟩ := ih (first + 1) s'
        (log ++ [⟨.step search first count, .ok (.records [v])⟩])
      refine ⟨r.map (v :: ·), s'', ⟨.step search first count, .ok (.records [v])⟩ :: es,
        ?_, ?_, held, here.append rest⟩
      · simp only [Call.exec_bind, hrun]
        cases r <;> rfl
      · simp only [Except.map, Call.exec_bind, Nat.add_zero]
        rw [hrun']
        cases r <;> simp

/-- All steps of the cursor at hand are asked for. -/
theorem steps (client : Client σ δ κ γ) (search : Search) (cursor : γ) :
    Conducts (client.steps cursor).length (fun _ _ => True)
      (fun n => (List.range n).map (.step search · n)) (Remote.readAll (client.steps cursor))
      (Remote.readAll (client.recorded.steps (search, cursor))) id id := by
  intro s log
  have read := readAll search (client.steps cursor).length (client.steps cursor) 0
  obtain ⟨r, s', es, hrun, hrun', held, concludes⟩ := read s log
  simp only [Nat.zero_add] at hrun'
  rw [← List.range_eq_range'] at concludes
  refine ⟨r, s', es, hrun, ?_, fun _ _ => trivial, ?_⟩
  · cases r <;> exact hrun'
  · rw [held]
    cases r <;> exact concludes

end Conducts

/-! ### Keys -/

/-- The key for a field and its direction: it falls exactly where a store in memory sorts down. -/
def IsKeyFor (e : Value × Value) (k : Value × Int) : Prop :=
  k.1 = e.1 ∧ (k.2 = -1 ∧ Store.SortsDown e.2 ∨ k.2 = 1 ∧ ¬Store.SortsDown e.2)

/-- The keys for the fields of a sort document, in their order; without a field none are asked
    for. -/
inductive KeysFor : Value.Entries → Option SortKeys → Prop
  | unsorted : KeysFor [] none
  | sorted {es : Value.Entries} {keys : SortKeys} (nonempty : es ≠ [])
    (h : List.Forall₂ IsKeyFor es keys) : KeysFor es (some keys)

theorem isKeyFor_keysOf (es : Value.Entries) : List.Forall₂ IsKeyFor es (Store.keysOf es) := by
  rw [Store.keysOf, List.forall₂_map_right_iff]
  refine List.forall₂_same.2 fun e _ => ⟨rfl, ?_⟩
  rw [Store.sortsDown_iff]
  cases Store.isDescending e.2 <;> simp

theorem truthy_of_entries {v : Value} {es : Value.Entries} (h : v.entries? = some es) :
    v.truthy = !es.isEmpty := by
  cases v <;> cases h <;> rfl

/-- Every sort document has its keys. -/
theorem exists_keysFor {sort : Value} (sorting : sort.truthy = true → sort.isMapping = true) :
    ∃ keys, sortKeys sort = .ok keys ∧ KeysFor (sort.entries?.getD []) keys := by
  rw [sortKeys]
  cases hes : sort.entries? with
  | none =>
    have untrue : sort.truthy = false := by
      refine Bool.eq_false_iff.2 fun htrue => ?_
      have mapping := sorting htrue
      rw [Value.isMapping, hes] at mapping
      cases mapping
    rw [untrue]
    exact ⟨none, rfl, .unsorted⟩
  | some es =>
    rw [truthy_of_entries hes]
    cases es with
    | nil => exact ⟨none, rfl, .unsorted⟩
    | cons e es => exact ⟨_, rfl, .sorted (List.cons_ne_nil e es) (isKeyFor_keysOf (e :: es))⟩

/-! ### Lookups -/

/-- How a failure of the client is reported by a lookup. -/
def ClientError.report (task : LookupTask) (c : Context) : ClientError → Failure
  | .database cause => .lookup task c.shown cause
  | .other f => f

/-- A lookup does to the client what it does to the one that is written down, and the exchanges with
    that conclude: the outcome is what was given, or the report of a failure. A cursor that was
    given is read by the plan for its steps. -/
def IsLookup (task : LookupTask) (c : Context) (plan : Nat → List Question) (x : Run σ α)
    (x' : Run (Watched σ Exchange) α) (given : α → List Value) : Prop :=
  ∀ s, ∃ r s' log, x'.exec ⟨s, []⟩ = (r, ⟨s', log⟩) ∧ x.exec s = (r, s') ∧
    Concludes (·.report task c) (plan (cursorSteps log)) log (r.map given)

theorem exec_asLookup {call : Call σ α} {s s' : σ} {r : Except ClientError α}
    (h : call.exec s = (r, s')) (task : LookupTask) (c : Context) :
    (asLookup task c call).exec s = (r.mapError (·.report task c), s') := by
  rw [Call.exec] at h
  rw [asLookup, Run.exec_of, h]
  obtain (cause | f) | a := r <;> rfl

theorem Conducts.isLookup {plan : Nat → List Question} {x : Call σ α}
    {x' : Call (Watched σ Exchange) α} {given : α → List Value}
    (h : Conducts 0 (fun _ _ => True) plan x x' id given) (task : LookupTask) (c : Context) :
    IsLookup task c plan (asLookup task c x) (asLookup task c x') given := by
  intro s
  obtain ⟨r, s', log, hrun, hrun', -, concludes⟩ := h s []
  refine ⟨r.mapError (·.report task c), s', log, ?_, exec_asLookup hrun task c, ?_⟩
  · rw [exec_asLookup hrun']
    cases r <;> rfl
  · have reported := concludes.reported (·.report task c)
    cases r <;> exact reported

namespace Search

def handles (q : Search) : List Question :=
  [.database q.database, .collection q.database q.collection]

/-- What is asked to find one of the documents. -/
def questionsForOne (q : Search) : List Question := q.handles ++ [.findOne q]

def questionsForSorting (q : Search) : List Question := if q.keys.isSome then [.sort q] else []

/-- What is asked to find all of the documents with a cursor of so many steps. -/
def questionsForMany (q : Search) (count : Nat) : List Question :=
  q.handles ++ ([.find { q with keys := none }] ++ (q.questionsForSorting ++
    (List.range count).map (.step q · count)))

end Search

namespace Loader

/-- The context or the loader says which collection is meant. -/
def NamesCollection (l : Loader σ δ κ γ) (c : Context) : Prop :=
  c.collection.truthy = true ∨ l.collection.truthy = true

/-- The documents that a lookup is for. -/
def search (l : Loader σ δ κ γ) (c : Context) (filter : Value) (keys : Option SortKeys) : Search :=
  ⟨Store.orDefault c.database l.database, Store.orDefault c.collection l.collection, filter, keys⟩

variable {l : Loader σ δ κ γ} {c : Context}

theorem namesCollection_iff :
    l.NamesCollection c ↔ (Store.orDefault c.collection l.collection).truthy = true := by
  rw [NamesCollection, Store.orDefault]
  cases h : c.collection.truthy <;> simp [h]

theorem collectionFor_unnamed (h : ¬l.NamesCollection c) :
    l.collectionFor c = Call.fail (.noCollection c.shown) := by
  rw [namesCollection_iff, Bool.not_eq_true] at h
  rw [collectionFor, h]
  rfl

theorem conducts_collectionFor (h : l.NamesCollection c) (filter : Value)
    (keys : Option SortKeys) :
    Conducts 0 (fun _ n => n = 0) (fun _ => (l.search c filter keys).handles) (l.collectionFor c)
      (l.recorded.collectionFor c)
      (((l.search c filter keys).database, (l.search c filter keys).collection), ·)
      fun _ => [] := by
  rw [namesCollection_iff] at h
  have named : l.collectionFor c = (do
      let d ← l.client.database (l.search c filter keys).database
      l.client.collection d (l.search c filter keys).collection) := by
    rw [collectionFor, h]
    rfl
  have named' : l.recorded.collectionFor c = (do
      let d ← l.recorded.client.database (l.search c filter keys).database
      l.recorded.client.collection d (l.search c filter keys).collection) := by
    rw [collectionFor, recorded, h]
    rfl
  rw [named, named']
  refine Conducts.bind (.handle 0 _ _ _) ?_
  rintro d n rfl
  exact .handle 0 _ _ _

theorem isLookup_fetchOne (h : l.NamesCollection c) (filter : Value) {keys : Option SortKeys}
    (hkeys : sortKeys c.sort = .ok keys) :
    IsLookup .one c (fun _ => (l.search c filter keys).questionsForOne) (l.fetchOne c filter)
      (l.recorded.fetchOne c filter) Option.toList := by
  refine Conducts.isLookup ?_ .one c
  refine (conducts_collectionFor h filter keys).bind fun k n _ => ?_
  rw [hkeys]
  exact .records n _ _ _ _

theorem isLookup_fetchMany (h : l.NamesCollection c) (filter : Value) {keys : Option SortKeys}
    (hkeys : sortKeys c.sort = .ok keys) :
    IsLookup .many c (l.search c filter keys).questionsForMany (l.fetchMany c filter)
      (l.recorded.fetchMany c filter) id := by
  refine Conducts.isLookup ?_ .many c
  refine (conducts_collectionFor h filter keys).bind fun k n _ => ?_
  refine Conducts.bind (.cursor n _ _ _ _) ?_
  rintro cursor _ rfl
  rw [hkeys]
  cases keys with
  | none => exact Conducts.steps l.client _ cursor
  | some keys =>
    have sorted := Conducts.cursor (l.client.steps cursor).length
      (.sort (l.search c filter (some keys))) (fun cursor => (l.client.steps cursor).length)
      ((l.search c filter (some keys)), ·) (l.client.sort cursor keys)
    refine sorted.bind ?_
    rintro cursor _ rfl
    exact .steps l.client _ cursor

theorem exec_fetch_unnamed (h : ¬l.NamesCollection c) (filter : Value) (s : σ) :
    (l.fetchOne c filter).exec s = (.error (.noCollection c.shown), s) ∧
    (l.fetchMany c filter).exec s = (.error (.noCollection c.shown), s) := by
  rw [fetchOne, fetchMany, collectionFor_unnamed h]
  exact ⟨rfl, rfl⟩

/-- Where neither the context nor the loader names a collection, nothing is asked. Else the client
    is asked for the database and the collection that are meant, and there for what the filter
    matches, by the keys for the sort document; whatever it does, it is known what a lookup makes of
    it. -/
theorem fetch_concludes (l : Loader σ δ κ γ) (c : Context) (filter : Value)
    (sorting : c.sort.truthy = true → c.sort.isMapping = true) :
    (¬l.NamesCollection c →
      (∀ s, (l.fetchOne c filter).exec s = (.error (.noCollection c.shown), s) ∧
        (l.fetchMany c filter).exec s = (.error (.noCollection c.shown), s)) ∧
      ∀ w, (l.recorded.fetchOne c filter).exec w = (.error (.noCollection c.shown), w) ∧
        (l.recorded.fetchMany c filter).exec w = (.error (.noCollection c.shown), w)) ∧
    (l.NamesCollection c → ∃ keys, KeysFor (c.sort.entries?.getD []) keys ∧
      IsLookup .one c (fun _ => (l.search c filter keys).questionsForOne)
        (l.fetchOne c filter) (l.recorded.fetchOne c filter) Option.toList ∧
      IsLookup .many c (l.search c filter keys).questionsForMany
        (l.fetchMany c filter) (l.recorded.fetchMany c filter) id) := by
  constructor
  · intro unnamed
    exact ⟨exec_fetch_unnamed unnamed filter, exec_fetch_unnamed (l := l.recorded) unnamed filter⟩
  · intro named
    obtain ⟨keys, hkeys, keysFor⟩ := exists_keysFor sorting
    exact ⟨keys, keysFor, isLookup_fetchOne named filter hkeys,
      isLookup_fetchMany named filter hkeys⟩

/-- A client that loses its server behind the first record. -/
def interrupted : Loader Nat Unit Unit Unit where
  client := {
    database := fun _ => pure ()
    collection := fun _ _ => pure ()
    findOne := fun _ _ _ => throw (.database "AutoReconnect")
    find := fun _ _ => pure ()
    sort := fun _ _ => pure ()
    steps := fun _ => [pure (.map [(.text "isbn", .int 2)]), throw (.database "AutoReconnect"),
      pure (.map [(.text "isbn", .int 1)])] }
  database := .text "main"
  collection := .text "books"

def byIsbn : Context := ⟨.null, .null, .map [(.text "isbn", .text "desc")]⟩

/-- The cursor has three steps; two are taken, and the record that was read is not given. -/
theorem fetch_interrupted : ∃ keys s log,
    KeysFor [(.text "isbn", .text "desc")] keys ∧ cursorSteps log = 3 ∧
    (interrupted.recorded.fetchMany byIsbn (.map [])).exec ⟨0, []⟩
      = (.error (.lookup .many byIsbn.shown "AutoReconnect"), ⟨s, log⟩) ∧
    Concludes (·.report .many byIsbn)
      ((interrupted.search byIsbn (.map []) keys).questionsForMany 3) log
      (.error (.lookup .many byIsbn.shown "AutoReconnect")) := by
  have named : interrupted.NamesCollection byIsbn := .inr rfl
  obtain ⟨keys, keysFor, -, many⟩ :=
    (fetch_concludes interrupted byIsbn (.map []) fun _ => rfl).2 named
  obtain ⟨r, s, log, hrecorded, hplain, concludes⟩ := many 0
  obtain ⟨rfl, -⟩ := Prod.mk.inj hplain
  have three : cursorSteps log = 3 :=
    (congrArg (fun outcome => cursorSteps outcome.2.requests) hrecorded).symm
  rw [three] at concludes
  exact ⟨keys, s, log, keysFor, three, hrecorded, concludes⟩

end Loader

end Remote

end LinkedDocs
