import LinkedDocs.Proofs.ProxyOperations

/-! A proxy asks for its target until it gets it, and never again.

    Whatever is done with proxies, in whatever order and however often their suppliers fail: a
    method of a proxy that loads calls its supplier once as long as no call had success, and never
    afterwards; a failed call passes on its failure and leaves the proxy as it was. A loaded target
    is the same object ever after, unless an operator in place has put its result there. -/

namespace LinkedDocs.Pool

variable {σ : Type}

/-- What can be asked of a proxy. -/
inductive Method where
  | passive (q : Passive)
  | shown
  | hash (v : Value)
  | unwrap
  | getAttribute (name : String)
  | setAttribute (name : String) (x : Value)
  | deleteAttribute (name : String)
  | getItem (key : Value)
  | setItem (key x : Value)
  | deleteItem (key : Value)
  | contains (x : Value)
  | convert (c : Conversion)
  | call (args : List Value) (named : Value)
  /-- A method of the target, which is got as an attribute. -/
  | callTarget (name : String) (args : List Value) (foreign : name ∉ ownNames)
  | operate (op : Infix) (w : Value)
  | reflect (op : Value.Operator) (w : Value)
  | inPlace (op : Value.Operator) (w : Value)
  | reduce

namespace Method

/-- Does what is asked of the proxy that `self` refers to. -/
def on (m : Method) (id : Nat) (property : String) (self : Value) : Use σ Value :=
  match m with
  | .passive q => Pool.passive q id
  | .shown => showing self
  | .hash v => Run.value ((sameHash property v).map .bool)
  | .unwrap => Pool.unwrap id
  | .getAttribute name => Pool.getAttribute self name
  | .setAttribute name x => do
    Pool.setAttribute id name x
    pure .null
  | .deleteAttribute name => do
    Pool.deleteAttribute id name
    pure .null
  | .getItem key => Pool.getItem self key
  | .setItem key x => do
    Pool.setItem id key x
    pure .null
  | .deleteItem key => do
    Pool.deleteItem id key
    pure .null
  | .contains x => Pool.contains self x
  | .convert c => Pool.convert c self
  | .call args named => Pool.call self args named
  | .callTarget name args _ => Pool.callTarget id name args
  | .operate op w => Pool.operate op self w
  | .reflect op w => Pool.reflect op id w
  | .inPlace op w => do
    let (_, v) ← operateInPlace op id self w
    pure v
  | .reduce => do
    let (v, _) ← reduced id
    pure v

/-- Does what is asked of a proxy. -/
def perform (m : Method) (id : Nat) : Use σ Value := do
  match ← proxy? id with
  | none => Run.value (.error .attribute)
  | some p => m.on id p.property (reference id p)

/-- Methods that never load. -/
def isPassive : Method → Bool
  | .passive _ | .shown | .hash _ => true
  | .getAttribute name => name ∈ ownNames
  | .operate op _ => op == .compare .eq || op == .compare .ne
  | _ => false

/-- Methods that change the content of the target. -/
def writes : Method → Bool
  | .setAttribute .. | .deleteAttribute .. | .setItem .. | .deleteItem .. | .callTarget .. => true
  | _ => false

/-- Methods that are over at the first failure of a supplier, which they pass on. The others may
    leave a change behind, or take the failure of an operand's supplier for a missing attribute or
    byte. -/
def isStrict : Method → Bool
  | .contains (.deferred ..) | .callTarget .. | .inPlace .or _ => false
  | _ => true

/-- The operator and the operand of a method that gives its result to the proxy. -/
def update? : Method → Option (Value.Operator × Value)
  | .inPlace op w => if updatesProxy op then some (op, w) else none
  | _ => none

/-- The operand that is loaded before the proxy itself. -/
def before? : Method → Option Value
  | .reflect _ w => some w
  | _ => none

/-! ### Method by method -/

section

variable {m : Method} {id : Nat} {pool : Pool σ}

theorem exec_perform {p : Proxy σ} (hp : pool.proxies[id]? = some p) :
    (m.perform id).exec pool = (m.on id p.property (.deferred id p.property p.source)).exec pool := by
  have hself : (Pool.proxy? id).exec pool = (.ok pool.proxies[id]?, pool) := rfl
  rw [perform, Run.exec_bind, hself, hp]
  rfl

theorem exec_perform_missing (hp : pool.proxies[id]? = none) :
    (m.perform id).exec pool = (.error (.misuse .attribute), pool) := by
  have hself : (Pool.proxy? id).exec pool = (.ok pool.proxies[id]?, pool) := rfl
  rw [perform, Run.exec_bind, hself, hp]
  rfl

/-- Passive methods leave everything as it is. -/
theorem on_passive (hm : m.isPassive = true) {p : Proxy σ} (hp : pool.proxies[id]? = some p)
    (property q : String) (r : Value) : ((m.on id property (.deferred id q r)).exec pool).2 = pool := by
  cases m with
  | passive a =>
    have hget : (Pool.passive a id).exec pool =
        (.ok (match a with
          | .isResolved => .bool p.association.isResolved
          | .source => p.source
          | .property => .text p.property), pool) := by
      rw [Pool.passive, Run.exec_bind, Run.exec_get]
      simp only [hp]
      cases a <;> rfl
    exact congrArg Prod.snd hget
  | shown => rfl
  | hash v => rfl
  | getAttribute name =>
    obtain ⟨x, hx⟩ := Option.isSome_iff_exists.mp ((ownAttribute?_isSome p name).trans hm)
    have hown : (proxyAttribute? (.deferred id q r) name).exec pool = (.ok (some x), pool) := by
      have hself : (Pool.proxy? id).exec pool = (.ok pool.proxies[id]?, pool) := rfl
      rw [proxyAttribute?, Run.exec_bind, hself, hp, ← hx]
      rfl
    simp only [on, Pool.getAttribute, Run.exec_bind, hown, Run.exec_pure]
  | operate op w =>
    obtain rfl | rfl : op = .compare .eq ∨ op = .compare .ne := by
      simpa [isPassive] using hm
    · rfl
    · rfl
  | _ => contradiction

end

section

variable {s : Script} {m : Method} {id : Nat} {property : String} {pool pool' : Pool Calls}

/-- Methods that neither write nor update do nothing but load, if they are strict. -/
theorem loads_on (hw : m.writes = false) (hu : m.update? = none) (hs : m.isStrict = true)
    (self : Value) : Loads s (m.on id property self) := by
  cases m with
  | passive a =>
    refine .get_bind fun pool => ?_
    cases pool.proxies[id]? with
    | none => exact .value _
    | some p => cases a <;> exact .pure _
  | shown => exact .get_bind fun _ => .pure _
  | hash v => exact .value _
  | unwrap => exact .unwrap id
  | getAttribute name => exact .getAttribute self name
  | getItem key => exact .getItem self key
  | contains x =>
    refine .contains self ?_
    rintro j p r rfl
    contradiction
  | convert c => exact .convert c self
  | call args named => exact .call self args named
  | operate op w => exact .operate op self w
  | reflect op w => exact .reflect op id w
  | inPlace op w =>
    have hop : ¬ updatesProxy op = true := by
      intro hop
      rw [update?, if_pos hop] at hu
      contradiction
    rw [on, operateInPlace, if_neg hop]
    exact ((Loads.operate _ self w).bind fun _ => .pure _).bind fun _ => .pure _
  | reduce => exact (Loads.reduced id).bind fun _ => .pure _
  | _ => contradiction

/-- Only a union in place, or the search for a byte, is not strict among those. -/
theorem eq_contains (hw : m.writes = false) (hu : m.update? = none) (hs : m.isStrict = false) :
    ∃ x, m = .contains x := by
  cases m with
  | contains x => exact ⟨x, rfl⟩
  | inPlace op w =>
    cases op with
    | or => cases hu
    | _ => cases hs
  | callTarget name args foreign => cases hw
  | _ => cases hs

theorem asks_on (hw : m.writes = false) (hu : m.update? = none) (self : Value) :
    Asks s (m.on id property self) := by
  cases hs : m.isStrict with
  | true => exact (loads_on hw hu hs self).asks
  | false =>
    obtain ⟨x, rfl⟩ := eq_contains hw hu hs
    exact .contains self x

/-- What succeeds has done nothing but load. -/
theorem reads_on {v : Value} (hw : m.writes = false) (hu : m.update? = none) {self : Value}
    (hp : Scripted s pool) (hx : (m.on id property self).exec pool = (.ok v, pool')) :
    Reads s pool pool' := by
  cases hs : m.isStrict with
  | true => exact (loads_on hw hu hs self).ok hp hx
  | false =>
    obtain ⟨x, rfl⟩ := eq_contains hw hu hs
    exact contains_ok hp hx

/-- Methods that write load, and change the content of one target. -/
theorem changes_on (hw : m.writes = true) (hs : m.isStrict = true) (self : Value) :
    Changes s id (m.on id property self) := by
  cases m with
  | setAttribute name x => exact (Changes.setAttribute name x).andThen Value.null
  | deleteAttribute name => exact (Changes.deleteAttribute name).andThen Value.null
  | setItem key x => exact (Changes.setItem key x).andThen Value.null
  | deleteItem key => exact (Changes.deleteItem key).andThen Value.null
  | _ => contradiction

/-- However a method that writes ends, it changes the proxy's own target at most. -/
theorem written_on {r : Except Failure Value} (hw : m.writes = true) {self : Value}
    (hp : Scripted s pool) (hx : (m.on id property self).exec pool = (r, pool')) :
    (∃ f, r = .error f ∧ Stopped s f pool pool') ∨ Changed s id pool pool' := by
  cases hs : m.isStrict with
  | true =>
    cases r with
    | ok v => exact .inr ((changes_on hw hs self).ok hp hx)
    | error f => exact .inl ⟨f, rfl, (changes_on hw hs self).error hp hx⟩
  | false =>
    cases m with
    | callTarget name args foreign => exact callTarget_cases hp hx
    | _ => contradiction

theorem update?_eq_some {op : Value.Operator} {w : Value} (h : m.update? = some (op, w)) :
    m = .inPlace op w ∧ updatesProxy op = true := by
  cases m with
  | inPlace op' w' =>
    rw [update?] at h
    split at h
    · obtain ⟨rfl, rfl⟩ := Prod.mk.inj (Option.some.inj h)
      exact ⟨rfl, ‹_›⟩
    · contradiction
  | _ => contradiction

/-- A strict method has done nothing but load when it fails. -/
theorem failsEarly_on (hs : m.isStrict = true) (id : Nat) (property : String) (self : Value) :
    FailsEarly s (m.on id property self) := by
  cases hw : m.writes with
  | true => exact (changes_on hw hs self).error
  | false =>
    cases hu : m.update? with
    | none => exact (loads_on hw hu hs self).error
    | some u =>
      obtain ⟨rfl, hop⟩ := update?_eq_some hu
      have hor : u.1 ≠ .or := by
        intro hor
        rw [hor] at hs
        contradiction
      intro pool pool' f hp hx
      rcases Run.exec_bind_error hx with hx | ⟨a, mid, -, hx⟩
      · exact failsEarly_operateInPlace hop hor self u.2 hp hx
      · nomatch congrArg Prod.fst hx

theorem updates_on {op : Value.Operator} {w self : Value} {r : Except Failure Value}
    (hop : updatesProxy op = true) (hp : Scripted s pool)
    (hx : ((Method.inPlace op w).on id property self).exec pool = (r, pool')) :
    Updates s op id w pool (r.map fun _ => ()) pool' := by
  rw [on, Run.exec_bind] at hx
  match ha : (operateInPlace op id self w).exec pool with
  | (.ok a, mid) =>
    rw [ha] at hx
    obtain ⟨rfl, rfl⟩ := Prod.mk.inj hx
    exact operateInPlace_updates hop hp ha
  | (.error f, mid) =>
    rw [ha] at hx
    obtain ⟨rfl, rfl⟩ := Prod.mk.inj hx
    exact operateInPlace_updates hop hp ha

theorem steady_on (m : Method) (id : Nat) (property : String) (self : Value) :
    Steady s (m.on id property self) := by
  cases hw : m.writes with
  | true =>
    refine Changed.steady id fun {pool r pool'} hp hx => ?_
    rcases written_on hw hp hx with ⟨f, -, hstopped⟩ | hchanged
    · exact .inl hstopped.asked
    · exact .inr hchanged
  | false =>
    cases hu : m.update? with
    | none => exact (asks_on hw hu self).steady
    | some u =>
      obtain ⟨rfl, hop⟩ := update?_eq_some hu
      exact (steady_operateInPlace hop self u.2).bind fun _ => (Loads.pure _).steady

/-- Methods that load start with the proxy, if there is no operand to be loaded before. -/
theorem startsWith_on (hm : m.isPassive = false) (hb : m.before? = none) (q : String) (r : Value) :
    StartsWith s id (m.on id property (.deferred id q r)) := by
  cases m with
  | unwrap => exact .unwrap id
  | getAttribute name =>
    refine .getAttribute (fun p => ?_) q r
    rw [← Option.not_isSome_iff_eq_none, ownAttribute?_isSome]
    simpa [isPassive] using hm
  | setAttribute name x =>
    exact (StartsWith.modifyTarget fun _ => .value _).bind fun _ => (Loads.pure _).steady
  | deleteAttribute name =>
    exact (StartsWith.modifyTarget fun _ => .value _).bind fun _ => (Loads.pure _).steady
  | getItem key =>
    exact (StartsWith.strip q r).bind fun _ => ((Loads.keyFor _ key).bind fun _ => .value _).steady
  | setItem key x =>
    refine (StartsWith.modifyTarget fun v => ?_).bind fun _ => (Loads.pure _).steady
    exact (Loads.keyFor _ key).bind fun _ => .value _
  | deleteItem key =>
    refine (StartsWith.modifyTarget fun v => ?_).bind fun _ => (Loads.pure _).steady
    exact (Loads.keyFor _ key).bind fun _ => .value _
  | contains x =>
    exact (StartsWith.strip q r).bind fun v =>
      ((Asks.itemFor v x).bind fun _ => (Loads.value _).asks).steady
  | convert c =>
    exact (StartsWith.strip q r).bind fun _ => (Loads.get_bind fun _ => .value _).steady
  | call args named => exact .call args named q r
  | callTarget name args foreign => exact .callTarget name args
  | operate op w =>
    obtain ⟨heq, hne⟩ : op ≠ .compare .eq ∧ op ≠ .compare .ne := by
      simpa [isPassive] using hm
    exact .operate heq hne q r w
  | inPlace op w =>
    by_cases hop : updatesProxy op = true
    · exact (StartsWith.operateInPlace hop _ w).bind fun _ => (Loads.pure _).steady
    · rw [on, operateInPlace, if_neg hop]
      refine StartsWith.bind (.bind (.operate ?_ ?_ q r w) fun _ => (Loads.pure _).steady)
        fun _ => (Loads.pure _).steady
      all_goals
        intro h
        cases h
  | reduce => exact (StartsWith.reduced id).bind fun _ => (Loads.pure _).steady
  | _ => contradiction

/-- The method has to load another proxy first, and that fails. -/
def Blocked (m : Method) (id : Nat) (pool : Pool Calls) (f : Failure) (pool' : Pool Calls) : Prop :=
  ∃ j q r, m.before? = some (.deferred j q r) ∧ j ≠ id ∧
    (Pool.unwrap j).exec pool = (.error f, pool')

theorem on_blocked {f : Failure} (hb : m.Blocked id pool f pool') (self : Value) :
    (m.on id property self).exec pool = (.error f, pool') := by
  obtain ⟨j, q, r, hbefore, -, hj⟩ := hb
  cases m with
  | reflect op w =>
    obtain rfl := Option.some.inj hbefore
    rw [on, Pool.reflect, Run.exec_bind]
    simp only [Pool.unwrapped, hj]
  | _ => contradiction

/-- From some point on, with the proxy as it was, the method starts with the proxy. -/
theorem on_startsWith (hm : m.isPassive = false) (hb : ∀ f mid, ¬ m.Blocked id pool f mid)
    (hp : Scripted s pool) (property q : String) (r : Value) :
    ∃ mid, Scripted s mid ∧ mid.cell id = pool.cell id ∧ ∃ x : Use Calls Value,
      StartsWith s id x ∧ (m.on id property (.deferred id q r)).exec pool = x.exec mid := by
  -- Only a reflected operator loads another proxy before this one, unless it is this one itself.
  cases m with
  | reflect op w =>
    have hrest : ∀ a, StartsWith s id (Pool.unwrap id >>= fun b => Pool.operate (.arithmetic op) a b) :=
      fun a => .unwrap_bind fun b => (Loads.operate _ a b).steady
    cases w with
    | deferred j t u =>
      by_cases hj : j = id
      · subst hj
        refine ⟨pool, hp, rfl, _, ?_, rfl⟩
        exact .unwrap_bind fun a => ((Loads.unwrap j).bind fun b => .operate _ a b).steady
      · match hx : (Pool.unwrap j).exec pool with
        | (.error f, mid) => exact absurd ⟨j, t, u, rfl, hj, hx⟩ (hb f mid)
        | (.ok a, mid) =>
          have hscripted := (unwrap_ok hp hx).1.asked.scripted hp
          refine ⟨mid, hscripted, unwrap_other hp hx (Ne.symm hj), _, hrest a, ?_⟩
          rw [on, Pool.reflect, Run.exec_bind]
          simp only [Pool.unwrapped, hx]
    | _ => exact ⟨pool, hp, rfl, _, hrest _, rfl⟩
  | _ => exact ⟨pool, hp, rfl, _, startsWith_on hm rfl q r, rfl⟩

end

end Method

/-! ### One method -/

variable {s : Script} {m : Method} {id : Nat} {pool pool' : Pool Calls} {r : Except Failure Value}

/-- What a method of one proxy does to all of them. -/
structure Step (s : Script) (m : Method) (id : Nat) (pool : Pool Calls) (r : Except Failure Value)
    (pool' : Pool Calls) : Prop where
  passive : m.isPassive = true → pool' = pool
  answered : m = .passive .isResolved → ∀ a, (pool.cell id).1 = some a → r = .ok (.bool a.isResolved)
  /-- The first call that gives a value loads the proxy, and no other call is made. -/
  loads : m.isPassive = false → (∀ f mid, ¬ m.Blocked id pool f mid) → ∀ v n,
    pool.cell id = (some (.deferred (s.attempt id)), n) → s id n = .ok v → Settled pool' id (n + 1)
  /-- A call that fails is the only one, and passes on its failure. -/
  fails : m.isPassive = false → (∀ f mid, ¬ m.Blocked id pool f mid) → ∀ f n,
    pool.cell id = (some (.deferred (s.attempt id)), n) → s id n = .error f →
    r = .error f ∧ pool'.cell id = (some (.deferred (s.attempt id)), n + 1)
  /-- If another proxy has to be loaded first and is not, this one's supplier is not called. -/
  blocked : ∀ f mid, m.Blocked id pool f mid →
    r = .error f ∧ pool' = mid ∧ pool'.cell id = pool.cell id
  /-- No supplier is called after it has had success. -/
  settled : ∀ j n, Settled pool j n → Settled pool' j n
  /-- Methods that neither write nor update leave what is loaded as it is. -/
  read : ∀ v, r = .ok v → m.writes = false → m.update? = none → Reads s pool pool' ∧
    ∀ j n, Settled pool j n → pool'.cell j = pool.cell j
  /-- To write is to change the content of the proxy's own target, which stays the same object. -/
  written : ∀ v, r = .ok v → m.writes = true → Changed s id pool pool'
  replaced : ∀ v op w, r = .ok v → m.update? = some (op, w) →
    ∃ u, Replaces s op id w u pool pool' ∧ u.outcome = .ok ()
  /-- The failure of a strict method is the first one of a supplier, or there is none of those. -/
  stopped : ∀ f, r = .error f → m.isStrict = true → Stopped s f pool pool'
  /-- A failure leaves what is loaded as it is; but a method that writes, or a mapping that takes
      entries, may have changed the content of the proxy's own target, which stays the same
      object. -/
  failed : ∀ f, r = .error f →
    (Asked s pool pool' ∧ ∀ j n, Settled pool j n → pool'.cell j = pool.cell j) ∨
    (m.writes = true ∧ Changed s id pool pool') ∨
    ∃ op w u, m.update? = some (op, w) ∧ Replaces s op id w u pool pool' ∧
      u.outcome.mapError .misuse = .error f

theorem step {p : Proxy Calls} (hp : Scripted s pool) (hid : pool.proxies[id]? = some p)
    (hx : (m.perform id).exec pool = (r, pool')) : Step s m id pool r pool' := by
  rw [Method.exec_perform hid] at hx
  refine ⟨fun hm => ?_, ?_, fun hm hb v n hc hv => ?_, fun hm hb f n hc hf => ?_,
    fun f mid hb => ?_, fun j n hs => ?_, fun v hv hw hu => ?_, fun v hv hw => ?_,
    fun v op w hv hu => ?_, fun f hf hs => ?_, fun f hf => ?_⟩
  · have hpassive := Method.on_passive hm hid p.property p.property p.source
    rwa [hx] at hpassive
  · rintro rfl a ha
    have hanswer : (Pool.passive .isResolved id).exec pool =
        (.ok (.bool p.association.isResolved), pool) := by
      rw [Pool.passive, Run.exec_bind, Run.exec_get]
      simp only [hid]
      rfl
    rw [cell, hid] at ha
    obtain rfl := Option.some.inj ha
    exact congrArg Prod.fst (hx.symm.trans hanswer)
  · obtain ⟨mid, hmid, hcell, x, hstarts, heq⟩ :=
      Method.on_startsWith hm hb hp p.property p.property p.source
    have hsettled := hstarts.settles hmid (hcell.trans hc) hv
    rwa [← heq, hx] at hsettled
  · obtain ⟨mid, hmid, hcell, x, hstarts, heq⟩ :=
      Method.on_startsWith hm hb hp p.property p.property p.source
    rw [heq, hstarts.fails (hcell.trans hc) hf] at hx
    obtain ⟨rfl, rfl⟩ := Prod.mk.inj hx
    refine ⟨rfl, ?_⟩
    rw [cell_counted, if_pos rfl, hcell, hc]
  · rw [Method.on_blocked hb] at hx
    obtain ⟨rfl, rfl⟩ := Prod.mk.inj hx
    obtain ⟨j, q, u, -, hj, hunwrap⟩ := hb
    exact ⟨rfl, rfl, unwrap_other hp hunwrap (Ne.symm hj)⟩
  · have hsteady : Steady s (m.on id p.property (.deferred id p.property p.source)) :=
      Method.steady_on m id p.property _
    have hsettled := hsteady.settled hp hs
    rwa [hx] at hsettled
  · subst hv
    have hreads := Method.reads_on hw hu hp hx
    exact ⟨hreads, fun j n => hreads.asked.kept⟩
  · subst hv
    obtain ⟨f, hf, -⟩ | hchanged := Method.written_on hw hp hx
    · cases hf
    · exact hchanged
  · subst hv
    obtain ⟨rfl, hop⟩ := Method.update?_eq_some hu
    obtain ⟨f, hf, -⟩ | ⟨u, hreplaces, hend⟩ := Method.updates_on hop hp hx
    · cases hf
    · refine ⟨u, hreplaces, ?_⟩
      cases hu : u.outcome with
      | ok => rfl
      | error m =>
        rw [hu] at hend
        cases hend
  · subst hf
    exact Method.failsEarly_on hs id p.property _ hp hx
  · subst hf
    cases hw : m.writes with
    | true =>
      obtain ⟨f, -, hstopped⟩ | hchanged := Method.written_on hw hp hx
      · exact .inl ⟨hstopped.asked, fun j n => hstopped.asked.kept⟩
      · exact .inr (.inl ⟨rfl, hchanged⟩)
    | false =>
      cases hu : m.update? with
      | none =>
        have hasks : Asks s (m.on id p.property (.deferred id p.property p.source)) :=
          Method.asks_on hw hu _
        have hasked := hasks hp
        rw [hx] at hasked
        exact .inl ⟨hasked, fun j n => hasked.kept⟩
      | some u =>
        obtain ⟨rfl, hop⟩ := Method.update?_eq_some hu
        obtain ⟨f, -, hasked⟩ | ⟨u', hreplaces, hend⟩ := Method.updates_on hop hp hx
        · exact .inl ⟨hasked, fun j n => hasked.kept⟩
        · exact .inr (.inr ⟨u.1, u.2, u', rfl, hreplaces, hend.symm⟩)

/-! ### Any number of methods -/

/-- What a proxy has been through: as long as it is not loaded, all calls to its supplier have
    failed; once it is, the last one gave a value, and all before it had failed. -/
inductive History (s : Script) (id : Nat) : Cell → Prop
  | deferred {n : Nat} (h : ∀ k < n, ∃ f, s id k = .error f) :
    History s id (some (.deferred (s.attempt id)), n)
  | resolved {n : Nat} {v t : Value} {d : Option Value} (h : ∀ k < n, ∃ f, s id k = .error f)
    (hv : s id n = .ok v) : History s id (some (.resolved t d), n + 1)

/-- The proxies of the given properties and sources, each with a history of its own. -/
structure Remembers (s : Script) (references : List (String × Value)) (pool : Pool Calls) : Prop where
  same : pool.references = references
  history : ∀ id < references.length, History s id (pool.cell id)

/-- Calls methods of proxies in order, whether they fail or not. -/
def run (pool : Pool Calls) : List (Nat × Method) → Pool Calls
  | [] => pool
  | (id, m) :: calls => run ((m.perform id).exec pool).2 calls

variable {references : List (String × Value)}

theorem length_references (pool : Pool Calls) :
    pool.references.length = pool.proxies.length := List.length_map _

theorem Remembers.scripted (h : Remembers s references pool) : Scripted s pool := by
  intro id attempt hc
  have hid : id < references.length := by
    obtain ⟨p, hp, -⟩ := Option.map_eq_some_iff.mp hc
    rw [← h.same, length_references]
    exact (List.getElem?_eq_some_iff.mp hp).1
  have hhistory := h.history id hid
  generalize hcell : pool.cell id = c at hhistory
  cases hhistory with
  | deferred =>
    rw [hcell] at hc
    exact (Association.deferred.inj (Option.some.inj hc)).symm
  | resolved =>
    rw [hcell] at hc
    cases hc

theorem History.course {c c' : Cell} (h : History s id c) (hc : Course s id c c') :
    History s id c' := by
  induction hc with
  | stays => exact h
  | loads hv =>
    cases h with
    | deferred hfailed => exact .resolved hfailed hv
  | @fails n f c hf _ ih =>
    cases h with
    | deferred hfailed =>
      refine ih (.deferred fun k hk => ?_)
      rcases Nat.lt_succ_iff_lt_or_eq.mp hk with hk | rfl
      · exact hfailed k hk
      · exact ⟨f, hf⟩

theorem Remembers.asked (h : Remembers s references pool) (ha : Asked s pool pool') :
    Remembers s references pool' :=
  ⟨ha.references.trans h.same, fun id hid => (h.history id hid).course (ha.course id)⟩

theorem Remembers.updated {f : Association Calls → Association Calls}
    (h : Remembers s references pool) (hf : Retargets f) (j : Nat) :
    Remembers s references (pool.updated j f) := by
  refine ⟨(references_updated pool j f).trans h.same, fun id hid => ?_⟩
  have hhistory := h.history id hid
  rw [cell_updated]
  split
  · generalize pool.cell id = c at hhistory
    cases hhistory with
    | deferred hfailed =>
      rw [Option.map_some, hf.deferred]
      exact .deferred hfailed
    | @resolved n v t d hfailed hv =>
      obtain ⟨t', d', h'⟩ := hf.resolved t d
      rw [Option.map_some, h']
      exact .resolved hfailed hv
  · exact hhistory

theorem Remembers.changed (h : Remembers s references pool) (hc : Changed s id pool pool') :
    Remembers s references pool' := by
  obtain ⟨mid, j, v, hreads, -, rfl⟩ := hc
  exact (h.asked hreads.asked).updated (.change v) j

/-- Computing the new target may load more proxies, after the operands and before the update. -/
theorem Remembers.replaces {op : Value.Operator} {w : Value} {u : Update}
    (h : Remembers s references pool) (hr : Replaces s op id w u pool pool') :
    Remembers s references pool' := by
  obtain ⟨before, after, j, t, b, hreads, -, -, -, hu, rfl⟩ := hr
  have hbefore := h.asked hreads.asked
  exact (hbefore.asked (asked_updateOf hbefore.scripted hu)).updated (.apply u) j

theorem Remembers.exists_proxy (h : Remembers s references pool) (hid : id < references.length) :
    ∃ p, pool.proxies[id]? = some p := by
  rw [← h.same, length_references] at hid
  exact ⟨_, List.getElem?_eq_getElem hid⟩

/-- One method keeps the histories. -/
theorem Remembers.step (h : Remembers s references pool) (m : Method) (id : Nat) :
    Remembers s references ((m.perform id).exec pool).2 := by
  match hid : pool.proxies[id]?, hx : (m.perform id).exec pool with
  | none, (r, pool') =>
    rw [Method.exec_perform_missing hid] at hx
    obtain ⟨-, rfl⟩ := Prod.mk.inj hx
    exact h
  | some p, (.error f, pool') =>
    obtain ⟨hasked, -⟩ | ⟨-, hchanged⟩ | ⟨op, w, u, -, hreplaces, -⟩ :=
      (Pool.step h.scripted hid hx).failed f rfl
    · exact h.asked hasked
    · exact h.changed hchanged
    · exact h.replaces hreplaces
  | some p, (.ok v, pool') =>
    have hstep := Pool.step h.scripted hid hx
    cases hw : m.writes with
    | true => exact h.changed (hstep.written v rfl hw)
    | false =>
      cases hu : m.update? with
      | none => exact h.asked (hstep.read v rfl hw hu).1.asked
      | some u =>
        obtain ⟨update, hreplaces, -⟩ := hstep.replaced v u.1 u.2 rfl hu
        exact h.replaces hreplaces

theorem Remembers.run (h : Remembers s references pool) (calls : List (Nat × Method)) :
    Remembers s references (run pool calls) := by
  induction calls generalizing pool with
  | nil => exact h
  | cons c calls ih => exact ih (h.step c.2 c.1)

theorem run_append (pool : Pool Calls) (calls more : List (Nat × Method)) :
    run pool (calls ++ more) = run (run pool calls) more := by
  induction calls generalizing pool with
  | nil => rfl
  | cons c calls ih => exact ih _

end LinkedDocs.Pool
