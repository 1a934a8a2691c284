import LinkedDocs.Lazy.Operation
import Mathlib

/-! What loading does to a pool of proxies.

    Every supplier follows a script: its k-th call gives a value or fails, as it likes. Whatever
    happens, a supplier is only called as long as it has had no success. To load is to call some
    suppliers, each with success, until all that is needed is there or one of them fails; that
    failure is the end of it. Computations that do nothing else are closed under sequencing, so what
    holds of one call holds of everything that is made of calls. -/

namespace LinkedDocs.Pool

/-- What each proxy's supplier gives, by the number of calls it has had before. -/
abbrev Script := Nat → Nat → Except Failure Value

/-- How often each proxy's supplier was called. -/
abbrev Calls := Nat → Nat

/-- Calls the supplier of the given number. -/
def Script.attempt (s : Script) (id : Nat) : Run Calls Value :=
  Run.of fun calls => (s id (calls id), Function.update calls id (calls id + 1))

/-- New proxies of the given properties and sources. -/
def Script.pool (s : Script) (references : List (String × Value)) : Pool Calls :=
  ⟨references.mapIdx fun id r => ⟨r.1, r.2, .deferred (s.attempt id)⟩, fun _ => 0⟩

/-- A proxy's association and the number of calls to its supplier. -/
abbrev Cell := Option (Association Calls) × Nat

def cell (pool : Pool Calls) (id : Nat) : Cell :=
  ((pool.proxies[id]?).map (·.association), pool.world id)

/-- The target of a proxy, if it is loaded. -/
def loadedTarget? (pool : Pool Calls) (id : Nat) : Option Value := (pool.cell id).1.bind (·.target?)

/-- The properties and sources of the proxies. -/
def references (pool : Pool Calls) : List (String × Value) :=
  pool.proxies.map fun p => (p.property, p.source)

variable {s : Script} {pool pool' pool'' : Pool Calls} {id : Nat} {α β : Type}

/-- Some calls to the supplier of a proxy that is not loaded fail, and a last one may load it. -/
inductive Course (s : Script) (id : Nat) : Cell → Cell → Prop
  | stays (c : Cell) : Course s id c c
  | loads {k : Nat} {v : Value} (h : s id k = .ok v) :
    Course s id (some (.deferred (s.attempt id)), k) (some (.resolved v none), k + 1)
  | fails {k : Nat} {f : Failure} {c : Cell} (h : s id k = .error f)
    (rest : Course s id (some (.deferred (s.attempt id)), k + 1) c) :
    Course s id (some (.deferred (s.attempt id)), k) c

theorem Course.trans {c c' c'' : Cell} (h : Course s id c c') (h' : Course s id c' c'') :
    Course s id c c'' := by
  induction h with
  | stays => exact h'
  | loads hv =>
    cases h' with
    | stays => exact .loads hv
  | fails hf _ ih => exact .fails hf (ih h')

/-- All that happens is that suppliers are called that have had no success. -/
structure Asked (s : Script) (pool pool' : Pool Calls) : Prop where
  references : pool'.references = pool.references
  course : ∀ id, Course s id (pool.cell id) (pool'.cell id)

/-- A cell is left as it is, or it is loaded by a call that gives a value. -/
inductive Turn (s : Script) (id : Nat) : Cell → Cell → Prop
  | stays (c : Cell) : Turn s id c c
  | loads {k : Nat} {v : Value} (h : s id k = .ok v) :
    Turn s id (some (.deferred (s.attempt id)), k) (some (.resolved v none), k + 1)

theorem Turn.trans {c c' c'' : Cell} (h : Turn s id c c') (h' : Turn s id c' c'') :
    Turn s id c c'' := by
  cases h with
  | stays => exact h'
  | loads hv =>
    cases h' with
    | stays => exact .loads hv

theorem Turn.course {c c' : Cell} (h : Turn s id c c') : Course s id c c' := by
  cases h with
  | stays => exact .stays c
  | loads hv => exact .loads hv

/-- All that happens is that some proxies are loaded. -/
structure Reads (s : Script) (pool pool' : Pool Calls) : Prop where
  references : pool'.references = pool.references
  turn : ∀ id, Turn s id (pool.cell id) (pool'.cell id)

/-- The pool with another number of calls to one supplier. -/
def counted (pool : Pool Calls) (id n : Nat) : Pool Calls :=
  { pool with world := Function.update pool.world id n }

/-- A supplier is called, and fails. -/
def Fails (s : Script) (f : Failure) (pool pool' : Pool Calls) : Prop :=
  ∃ id k, pool.cell id = (some (.deferred (s.attempt id)), k) ∧ s id k = .error f ∧
    pool' = pool.counted id (k + 1)

/-- Some proxies are loaded, and then there is a failure; it may be that of one more supplier. -/
def Stopped (s : Script) (f : Failure) (pool pool' : Pool Calls) : Prop :=
  ∃ mid, Reads s pool mid ∧ (pool' = mid ∨ Fails s f mid pool')

/-- Every proxy that is not loaded has its supplier still. -/
def Scripted (s : Script) (pool : Pool Calls) : Prop :=
  ∀ id attempt, (pool.cell id).1 = some (.deferred attempt) → attempt = s.attempt id

/-- The proxy is loaded, by the given number of calls. -/
def Settled (pool : Pool Calls) (id n : Nat) : Prop :=
  ∃ v d, pool.cell id = (some (.resolved v d), n)

theorem cell_counted (pool : Pool Calls) (id n j : Nat) :
    (pool.counted id n).cell j = ((pool.cell j).1, if j = id then n else (pool.cell j).2) := by
  rw [cell, cell, counted]
  simp only [Function.update_apply]

@[simp] theorem references_counted (pool : Pool Calls) (id n : Nat) :
    (pool.counted id n).references = pool.references := rfl

theorem Reads.refl (pool : Pool Calls) : Reads s pool pool := ⟨rfl, fun _ => .stays _⟩

theorem Reads.trans (h : Reads s pool pool') (h' : Reads s pool' pool'') : Reads s pool pool'' :=
  ⟨h'.references.trans h.references, fun id => (h.turn id).trans (h'.turn id)⟩

theorem Reads.asked (h : Reads s pool pool') : Asked s pool pool' :=
  ⟨h.references, fun id => (h.turn id).course⟩

theorem Fails.asked {f : Failure} (h : Fails s f pool pool') : Asked s pool pool' := by
  obtain ⟨id, k, hc, hf, rfl⟩ := h
  refine ⟨rfl, fun j => ?_⟩
  rw [cell_counted]
  by_cases hj : j = id
  · subst hj
    rw [if_pos rfl, hc]
    exact .fails hf (.stays _)
  · rw [if_neg hj]
    exact .stays _

namespace Asked

theorem trans (h : Asked s pool pool') (h' : Asked s pool' pool'') : Asked s pool pool'' :=
  ⟨h'.references.trans h.references, fun id => (h.course id).trans (h'.course id)⟩

theorem scripted (h : Asked s pool pool') (hp : Scripted s pool) : Scripted s pool' := by
  intro id attempt hc
  have hcourse := h.course id
  have hcell := hp id
  generalize pool.cell id = c at hcourse hcell
  generalize pool'.cell id = c' at hcourse hc
  induction hcourse with
  | stays => exact hcell attempt hc
  | loads => cases hc
  | fails _ _ ih => exact ih hcell hc

/-- What is loaded stays as it is. -/
theorem kept (h : Asked s pool pool') {n : Nat} (hs : Settled pool id n) :
    pool'.cell id = pool.cell id := by
  obtain ⟨v, d, hc⟩ := hs
  have hcourse := h.course id
  rw [hc] at hcourse ⊢
  generalize pool'.cell id = c at hcourse ⊢
  cases hcourse with
  | stays => rfl

theorem settled (h : Asked s pool pool') {n : Nat} (hs : Settled pool id n) :
    Settled pool' id n := by
  rw [Settled, h.kept hs]
  exact hs

end Asked

theorem Stopped.asked {f : Failure} (h : Stopped s f pool pool') : Asked s pool pool' := by
  obtain ⟨mid, hmid, rfl | hend⟩ := h
  · exact hmid.asked
  · exact hmid.asked.trans hend.asked

theorem Reads.stopped {f : Failure} (h : Reads s pool pool') (h' : Stopped s f pool' pool'') :
    Stopped s f pool pool'' := by
  obtain ⟨mid, hmid, hend⟩ := h'
  exact ⟨mid, h.trans hmid, hend⟩

theorem settled_of_loadedTarget {v : Value} (h : pool.loadedTarget? id = some v) :
    ∃ n, Settled pool id n := by
  obtain ⟨a, ha, hv⟩ := Option.bind_eq_some_iff.mp h
  cases a with
  | deferred attempt => contradiction
  | resolved w d => exact ⟨_, w, d, Prod.ext ha rfl⟩

/-- A loaded target stays while suppliers of others are called. -/
theorem Asked.loadedTarget (h : Asked s pool pool') {v : Value}
    (hv : pool.loadedTarget? id = some v) : pool'.loadedTarget? id = some v := by
  obtain ⟨n, hs⟩ := settled_of_loadedTarget hv
  rw [loadedTarget?, h.kept hs]
  exact hv

/-! ### Computations that only load -/

/-- A computation that does nothing but call suppliers, whatever comes of it. -/
def Asks (s : Script) (x : Use Calls α) : Prop :=
  ∀ ⦃pool⦄, Scripted s pool → Asked s pool (x.exec pool).2

/-- A computation that has done nothing but load when it fails. -/
def FailsEarly (s : Script) (x : Use Calls α) : Prop :=
  ∀ ⦃pool pool' f⦄, Scripted s pool → x.exec pool = (.error f, pool') → Stopped s f pool pool'

/-- A computation that does nothing but load, however it ends. -/
structure Loads (s : Script) (x : Use Calls α) : Prop where
  ok : ∀ {pool pool' a}, Scripted s pool → x.exec pool = (.ok a, pool') → Reads s pool pool'
  error : FailsEarly s x

theorem FailsEarly.bind {x : Use Calls α} {f : α → Use Calls β} (hx : Loads s x)
    (hf : ∀ a, FailsEarly s (f a)) : FailsEarly s (x >>= f) := by
  intro pool pool' e hp h
  rcases Run.exec_bind_error h with hr | ⟨a, mid, hr, h⟩
  · exact hx.error hp hr
  · have hmid := hx.ok hp hr
    exact hmid.stopped (hf a (hmid.asked.scripted hp) h)

namespace Loads

theorem lift (r : Except Failure α) : Loads s (Run.lift r : Use Calls α) where
  ok _ h := by
    obtain ⟨-, rfl⟩ := Prod.mk.inj h
    exact .refl _
  error _ _ _ _ h := by
    obtain ⟨-, rfl⟩ := Prod.mk.inj h
    exact ⟨_, .refl _, .inl rfl⟩

theorem value (r : Except Misuse α) : Loads s (Run.value r : Use Calls α) := lift _

theorem pure (a : α) : Loads s (Pure.pure a : Use Calls α) := lift (.ok a)

theorem get : Loads s (MonadState.get : Use Calls (Pool Calls)) where
  ok _ h := by
    obtain ⟨-, rfl⟩ := Prod.mk.inj h
    exact .refl _
  error _ _ _ _ h := nomatch congrArg Prod.fst h

theorem bind {x : Use Calls α} {f : α → Use Calls β} (hx : Loads s x) (hf : ∀ a, Loads s (f a)) :
    Loads s (x >>= f) where
  ok hp h := by
    obtain ⟨a, mid, hr, h⟩ := Run.exec_bind_ok h
    have hmid := hx.ok hp hr
    exact hmid.trans ((hf a).ok (hmid.asked.scripted hp) h)
  error := .bind hx fun a => (hf a).error

/-- Loads with the pool at hand. -/
theorem get_bind {f : Pool Calls → Use Calls α} (hf : ∀ pool, Loads s (f pool)) :
    Loads s (MonadState.get >>= f) := get.bind hf

theorem asks {x : Use Calls α} (hx : Loads s x) : Asks s x := by
  intro pool hp
  match hr : x.exec pool with
  | (.ok a, pool') => exact (hx.ok hp hr).asked
  | (.error f, pool') => exact (hx.error hp hr).asked

end Loads

namespace Asks

theorem bind {x : Use Calls α} {f : α → Use Calls β} (hx : Asks s x) (hf : ∀ a, Asks s (f a)) :
    Asks s (x >>= f) := by
  intro pool hp
  have hmid := hx hp
  rw [Run.exec_bind]
  match hr : x.exec pool with
  | (.ok a, mid) =>
    rw [hr] at hmid
    exact hmid.trans (hf a (hmid.scripted hp))
  | (.error f, mid) =>
    rw [hr] at hmid
    exact hmid

/-- It does not matter that a failure is taken for a value. -/
theorem attempt {x : Use Calls α} (hx : Asks s x) : Asks s x.attempt :=
  fun _ hp => hx hp

end Asks

/-! ### One proxy -/

/-- The pool after a change of one association. -/
def updated (pool : Pool Calls) (id : Nat) (f : Association Calls → Association Calls) :
    Pool Calls :=
  { pool with
    proxies := pool.proxies.modify id fun p => { p with association := f p.association } }

theorem cell_updated (pool : Pool Calls) (id : Nat) (f : Association Calls → Association Calls)
    (j : Nat) : (pool.updated id f).cell j =
      ((if id = j then (pool.cell j).1.map f else (pool.cell j).1), (pool.cell j).2) := by
  simp only [cell, updated, List.getElem?_modify]
  split
  · cases pool.proxies[j]? <;> rfl
  · cases pool.proxies[j]? <;> rfl

theorem references_updated (pool : Pool Calls) (id : Nat)
    (f : Association Calls → Association Calls) :
    (pool.updated id f).references = pool.references := by
  refine List.ext_getElem? fun j => ?_
  simp only [references, updated, List.getElem?_map, List.getElem?_modify]
  cases pool.proxies[j]? with
  | none => rfl
  | some p => simp only [Option.map_some]; split <;> rfl

theorem setAssociation_self {p : Proxy Calls} (h : pool.proxies[id]? = some p) :
    pool.setAssociation id p.association = pool := by
  have hsame : pool.proxies.modify id (fun q => { q with association := p.association }) =
      pool.proxies := by
    refine List.ext_getElem? fun j => ?_
    rw [List.getElem?_modify]
    split
    · rename_i hj
      subst hj
      rw [h]
      rfl
    · exact congrFun Option.map_id _
  rw [setAssociation, hsame]

/-- A proxy that is loaded gives its target. -/
theorem exec_unwrap_resolved {v : Value} {d : Option Value} {n : Nat}
    (h : pool.cell id = (some (.resolved v d), n)) : (unwrap id).exec pool = (.ok v, pool) := by
  obtain ⟨p, hp, ha⟩ := Option.map_eq_some_iff.mp (congrArg Prod.fst h)
  rw [unwrap, Run.exec_of, hp]
  simp only [ha, Association.load]
  rw [← ha, setAssociation_self hp]

/-- A call that gives a value loads the proxy. -/
theorem exec_unwrap_loads {v : Value} {n : Nat} (h : pool.cell id = (some (.deferred (s.attempt id)), n))
    (hv : s id n = .ok v) :
    (unwrap id).exec pool =
      (.ok v, (pool.updated id fun _ => .resolved v none).counted id (n + 1)) := by
  obtain ⟨p, hp, ha⟩ := Option.map_eq_some_iff.mp (congrArg Prod.fst h)
  obtain rfl : pool.world id = n := congrArg Prod.snd h
  rw [unwrap, Run.exec_of, hp]
  simp only [ha, Association.load, Script.attempt, Run.exec_of, hv]
  rfl

/-- A call that fails counts, and leaves the proxy as it is. -/
theorem exec_unwrap_fails {f : Failure} {n : Nat}
    (h : pool.cell id = (some (.deferred (s.attempt id)), n)) (hf : s id n = .error f) :
    (unwrap id).exec pool = (.error f, pool.counted id (n + 1)) := by
  obtain ⟨p, hp, ha⟩ := Option.map_eq_some_iff.mp (congrArg Prod.fst h)
  obtain rfl : pool.world id = n := congrArg Prod.snd h
  rw [unwrap, Run.exec_of, hp]
  have hload : p.association.load pool.world =
      (.error f, p.association, Function.update pool.world id (pool.world id + 1)) := by
    rw [ha]
    simp only [Association.load, Script.attempt, Run.exec_of, hf]
  simp only [hload, setAssociation_self hp]
  rfl

/-- There is nothing behind a number that no proxy has. -/
theorem exec_unwrap_missing (h : (pool.cell id).1 = none) :
    (unwrap id).exec pool = (.error (.misuse .attribute), pool) := by
  rw [unwrap, Run.exec_of, Option.map_eq_none_iff.mp h]

/-- The pool after a call that gives a value. -/
theorem reads_loaded {v : Value} {n : Nat} (h : pool.cell id = (some (.deferred (s.attempt id)), n))
    (hv : s id n = .ok v) :
    Reads s pool ((pool.updated id fun _ => .resolved v none).counted id (n + 1)) := by
  refine ⟨(references_counted _ id (n + 1)).trans (references_updated pool id _), fun j => ?_⟩
  rw [cell_counted, cell_updated]
  by_cases hj : id = j
  · subst hj
    rw [h, if_pos rfl, if_pos rfl]
    exact .loads hv
  · rw [if_neg hj, if_neg (Ne.symm hj)]
    exact .stays _

/-- What unwrapping can do: nothing, with or without a target, or one call, that loads the proxy or
    fails. -/
theorem unwrap_cases (hp : Scripted s pool) (id : Nat) :
    (∃ f, (unwrap id).exec pool = (.error f, pool)) ∨
    (∃ v, (unwrap id).exec pool = (.ok v, pool) ∧ pool.loadedTarget? id = some v) ∨
    (∃ v n, pool.cell id = (some (.deferred (s.attempt id)), n) ∧ s id n = .ok v ∧
      (unwrap id).exec pool =
        (.ok v, (pool.updated id fun _ => .resolved v none).counted id (n + 1))) ∨
    (∃ f n, pool.cell id = (some (.deferred (s.attempt id)), n) ∧ s id n = .error f ∧
      (unwrap id).exec pool = (.error f, pool.counted id (n + 1))) := by
  match hc : pool.cell id with
  | (none, n) => exact .inl ⟨_, exec_unwrap_missing (congrArg Prod.fst hc)⟩
  | (some (.resolved v d), n) =>
    refine .inr (.inl ⟨v, exec_unwrap_resolved hc, ?_⟩)
    rw [loadedTarget?, hc]
    rfl
  | (some (.deferred attempt), n) =>
    obtain rfl := hp id attempt (congrArg Prod.fst hc)
    cases hv : s id n with
    | ok v => exact .inr (.inr (.inl ⟨v, n, rfl, hv, exec_unwrap_loads hc hv⟩))
    | error f => exact .inr (.inr (.inr ⟨f, n, rfl, hv, exec_unwrap_fails hc hv⟩))

theorem unwrap_ok {v : Value} (hp : Scripted s pool) (h : (unwrap id).exec pool = (.ok v, pool')) :
    Reads s pool pool' ∧ pool'.loadedTarget? id = some v := by
  rcases unwrap_cases hp id with ⟨f, hx⟩ | ⟨w, hx, ht⟩ | ⟨w, n, hc, hw, hx⟩ | ⟨f, n, -, -, hx⟩ <;>
    rw [hx] at h
  · nomatch congrArg Prod.fst h
  · obtain ⟨hv, rfl⟩ := Prod.mk.inj h
    obtain rfl := Except.ok.inj hv
    exact ⟨.refl _, ht⟩
  · obtain ⟨hv, rfl⟩ := Prod.mk.inj h
    obtain rfl := Except.ok.inj hv
    refine ⟨reads_loaded hc hw, ?_⟩
    rw [loadedTarget?, cell_counted, cell_updated, if_pos rfl, hc]
    rfl
  · nomatch congrArg Prod.fst h

theorem unwrap_error {f : Failure} (hp : Scripted s pool)
    (h : (unwrap id).exec pool = (.error f, pool')) : pool' = pool ∨ Fails s f pool pool' := by
  rcases unwrap_cases hp id with ⟨g, hx⟩ | ⟨w, hx, -⟩ | ⟨w, n, -, -, hx⟩ | ⟨g, n, hc, hg, hx⟩ <;>
    rw [hx] at h
  · exact .inl (congrArg Prod.snd h).symm
  · nomatch congrArg Prod.fst h
  · nomatch congrArg Prod.fst h
  · obtain ⟨hf, rfl⟩ := Prod.mk.inj h
    obtain rfl := Except.error.inj hf
    exact .inr ⟨id, n, hc, hg, rfl⟩

/-- Unwrapping a proxy is nothing to the others. -/
theorem unwrap_other {r : Except Failure Value} {j : Nat} (hp : Scripted s pool)
    (h : (unwrap id).exec pool = (r, pool')) (hj : j ≠ id) : pool'.cell j = pool.cell j := by
  rcases unwrap_cases hp id with ⟨f, hx⟩ | ⟨v, hx, -⟩ | ⟨v, n, -, -, hx⟩ | ⟨f, n, -, -, hx⟩ <;>
    rw [hx] at h <;> obtain ⟨-, rfl⟩ := Prod.mk.inj h
  · rfl
  · rfl
  · rw [cell_counted, cell_updated, if_neg hj, if_neg (Ne.symm hj)]
  · rw [cell_counted, if_neg hj]

/-- Unwrapping loads one proxy at most. -/
theorem Loads.unwrap (id : Nat) : Loads s (unwrap id) where
  ok hp h := (unwrap_ok hp h).1
  error _ _ _ hp h := ⟨_, .refl _, unwrap_error hp h⟩

theorem Loads.unwrapped (v : Value) : Loads s (unwrapped v) := by
  cases v with
  | deferred id p r => exact .unwrap id
  | _ => exact .pure _

theorem Loads.stripFrom (depth : Nat) (v : Value) : Loads s (stripFrom depth v) := by
  induction depth generalizing v with
  | zero => exact .pure v
  | succ depth ih =>
    cases v with
    | deferred id p r => exact (Loads.unwrap id).bind ih
    | _ => exact .pure _

theorem Loads.strip (v : Value) : Loads s (strip v) := .get_bind fun _ => .stripFrom _ v

theorem Loads.proxy? (id : Nat) : Loads s (proxy? id) := .get_bind fun _ => .pure _

/-! ### Chains of proxies -/

/-- A proxy, and the value behind it. -/
def Behind (pool : Pool Calls) (v w : Value) : Prop :=
  ∃ id p r, v = .deferred id p r ∧ pool.loadedTarget? id = some w

/-- A value, and what remains of it without some of its layers. -/
def Peels (pool : Pool Calls) : Value → Value → Prop := Relation.ReflTransGen (Behind pool)

/-- A proxy, and another one further down its chain. -/
def Leads (pool : Pool Calls) : Nat → Nat → Prop :=
  Relation.ReflTransGen fun i j => ∃ p r, pool.loadedTarget? i = some (.deferred j p r)

theorem Peels.asked {v w : Value} (hp : Peels pool v w) (h : Asked s pool pool') :
    Peels pool' v w := by
  induction hp with
  | refl => exact .refl
  | tail _ hb ih =>
    obtain ⟨id, p, r, hv, ht⟩ := hb
    exact ih.tail ⟨id, p, r, hv, h.loadedTarget ht⟩

theorem Leads.asked {i j : Nat} (hl : Leads pool i j) (h : Asked s pool pool') :
    Leads pool' i j := by
  induction hl with
  | refl => exact .refl
  | tail _ hb ih =>
    obtain ⟨p, r, ht⟩ := hb
    exact ih.tail ⟨p, r, h.loadedTarget ht⟩

/-- Removing a layer. -/
theorem peels_unwrapped {v w : Value} (hp : Scripted s pool)
    (h : (unwrapped v).exec pool = (.ok w, pool')) : Peels pool' v w := by
  cases v with
  | deferred id p r => exact .single ⟨id, p, r, rfl, (unwrap_ok hp h).2⟩
  | _ =>
    obtain ⟨rfl, rfl⟩ := Run.exec_pure_ok h
    exact .refl

/-- The first proxy of a chain is loaded if the last one is. -/
theorem Leads.loadedTarget {i j : Nat} (hl : Leads pool i j) {v : Value}
    (hv : pool.loadedTarget? j = some v) : ∃ w, pool.loadedTarget? i = some w := by
  rcases Relation.ReflTransGen.cases_head hl with rfl | ⟨k, ⟨p, r, hk⟩, -⟩
  · exact ⟨v, hv⟩
  · exact ⟨_, hk⟩

/-! ### Computations that keep what is loaded -/

/-- A computation after which every loaded proxy is loaded, with no further call. -/
structure Steady (s : Script) (x : Use Calls α) : Prop where
  scripted : ∀ {pool}, Scripted s pool → Scripted s (x.exec pool).2
  settled : ∀ {pool id n}, Scripted s pool → Settled pool id n → Settled (x.exec pool).2 id n

theorem Asks.steady {x : Use Calls α} (hx : Asks s x) : Steady s x where
  scripted hp := (hx hp).scripted hp
  settled hp hs := (hx hp).settled hs

theorem Loads.steady {x : Use Calls α} (hx : Loads s x) : Steady s x := hx.asks.steady

theorem Steady.bind {x : Use Calls α} {f : α → Use Calls β} (hx : Steady s x)
    (hf : ∀ a, Steady s (f a)) : Steady s (x >>= f) where
  scripted {pool} hp := by
    have hmid := hx.scripted hp
    rw [Run.exec_bind]
    match hr : x.exec pool with
    | (.ok a, mid) =>
      rw [hr] at hmid
      exact (hf a).scripted hmid
    | (.error f, mid) =>
      rw [hr] at hmid
      exact hmid
  settled {pool id n} hp hs := by
    have hmid := hx.scripted hp
    have hmid' := hx.settled hp hs
    rw [Run.exec_bind]
    match hr : x.exec pool with
    | (.ok a, mid) =>
      rw [hr] at hmid hmid'
      exact (hf a).settled hmid hmid'
    | (.error f, mid) =>
      rw [hr] at hmid'
      exact hmid'

/-- Another target for a loaded proxy; one that is not loaded is left alone. -/
structure Retargets (f : Association Calls → Association Calls) : Prop where
  deferred : ∀ attempt, f (.deferred attempt) = .deferred attempt
  resolved : ∀ v d, ∃ v' d', f (.resolved v d) = .resolved v' d'

theorem Retargets.change (v : Value) : Retargets (Association.change v) :=
  ⟨fun _ => rfl, fun _ _ => ⟨_, _, rfl⟩⟩

theorem Retargets.apply (u : Update) : Retargets u.apply := by
  cases u <;> exact ⟨fun _ => rfl, fun _ _ => ⟨_, _, rfl⟩⟩

theorem Retargets.scripted {f : Association Calls → Association Calls} (hf : Retargets f)
    (hp : Scripted s pool) : Scripted s (pool.updated id f) := by
  intro j attempt hc
  rw [cell_updated] at hc
  refine hp j attempt ?_
  split at hc
  · obtain ⟨a, ha, hfa⟩ := Option.map_eq_some_iff.mp hc
    rw [ha]
    cases a with
    | deferred attempt' => rw [← hfa, hf.deferred]
    | resolved v d =>
      obtain ⟨v', d', h'⟩ := hf.resolved v d
      rw [h'] at hfa
      cases hfa
  · exact hc

theorem Retargets.settled {f : Association Calls → Association Calls} (hf : Retargets f) {j n : Nat}
    (hs : Settled pool j n) : Settled (pool.updated id f) j n := by
  obtain ⟨v, d, hc⟩ := hs
  rw [Settled, cell_updated, hc]
  split
  · obtain ⟨v', d', h'⟩ := hf.resolved v d
    exact ⟨v', d', by rw [Option.map_some, h']⟩
  · exact ⟨v, d, rfl⟩

theorem Retargets.steady {f : Association Calls → Association Calls} (hf : Retargets f) (id : Nat) :
    Steady s (modifyAssociation id f) where
  scripted hp := hf.scripted hp
  settled _ hs := hf.settled hs

end LinkedDocs.Pool
