import LinkedDocs.Proofs.ProxyMethods

/-! Operators see through proxies.

    An operator that meets a proxy comes to a method of it: the proxy on the left passes the
    operator on, the one on the right reflects an arithmetic operator and answers a comparison the
    other way round. Each of these methods loads what stands for an operand and applies the operator
    to the operands in their own order, so the outcome is that of the operands themselves. -/

namespace LinkedDocs

/-- The comparison that asks the same with the operands exchanged. -/
def Value.Comparison.swapped : Value.Comparison → Value.Comparison
  | .lt => .gt
  | .le => .ge
  | .gt => .lt
  | .ge => .le
  | .eq => .eq
  | .ne => .ne

/-- Neither a proxy nor an address; comparisons with an address depend on the side it stands on. -/
def Value.isOperand : Value → Bool
  | .deferred .. | .url _ => false
  | _ => true

/-- The number of a proxy. -/
def Value.proxyId? : Value → Option Nat
  | .deferred id _ _ => some id
  | _ => none

theorem Value.proxyId?_of_isOperand {v : Value} (h : v.isOperand = true) : v.proxyId? = none := by
  cases v <;> first | rfl | contradiction

/-- Exchanging the operands is no change of meaning. -/
theorem Value.compareBy_swapped {v w : Value} (hv : v.isOperand = true) (hw : w.isOperand = true)
    {c : Value.Comparison} (heq : c ≠ .eq) (hne : c ≠ .ne) :
    compareBy c.swapped w v = compareBy c v w := by
  have hfw : isForeign w v = false := by cases w <;> first | rfl | contradiction
  have hfv : isForeign v w = false := by cases v <;> first | rfl | contradiction
  cases c with
  | lt | le => simp only [Comparison.swapped, compareBy, hfw, Bool.false_eq_true, if_false]
  | gt | ge => simp only [Comparison.swapped, compareBy, hfv, Bool.false_eq_true, if_false]
  | eq => contradiction
  | ne => contradiction

namespace Pool

/-- Operators that proxies pass on to their targets. Equality is about the proxies themselves, and a
    text that the remainder fills loads what it asks for. -/
def Infix.passesOn (op : Infix) : Bool :=
  op != .compare .eq && op != .compare .ne && op != .arithmetic .mod

section

variable {σ : Type}

/-- An operator between two operands as the method that it comes to. -/
def dispatch (op : Infix) (v w : Value) : Use σ Value :=
  match v, w with
  | .deferred id _ _, w => (Method.operate op w).perform id
  | v, .deferred id _ _ =>
    match op with
    | .arithmetic o => (Method.reflect o v).perform id
    | .compare c => (Method.operate (.compare c.swapped) v).perform id
  | v, w => Run.value (op.apply v w)

variable {op : Infix} {v w x y : Value}

theorem operate_of_passesOn (hop : op.passesOn = true) (v w : Value) :
    operate (σ := σ) op v w =
      get >>= fun pool => operateFrom op (2 * pool.proxies.length + 1) v w := by
  unfold operate
  split
  · contradiction
  · contradiction
  · rfl

theorem fills_of_passesOn (hop : op.passesOn = true) (v : Value) : op.fills v = false := by
  have hmod : (op == .arithmetic .mod) = false := by
    simp only [Infix.passesOn, Bool.and_eq_true, bne_iff_ne] at hop
    simpa using hop.2
  rw [Infix.fills, hmod, Bool.false_and]

/-- With an operand on the left, only the right side can lose a layer. -/
theorem operateFrom_left (hop : op.passesOn = true) (hx : x.isOperand = true) (w : Value)
    (depth : Nat) : operateFrom (σ := σ) op (depth + 1) x w =
      match w with
      | .deferred id _ _ => unwrap id >>= operateFrom op depth x
      | w => Run.value (op.apply x w) := by
  have unfilled : ¬op.fills x = true := Bool.eq_false_iff.1 (fills_of_passesOn hop x)
  unfold operateFrom
  split
  · contradiction
  · exact if_neg unfilled

/-- Between operands, the operator is applied. -/
theorem operateFrom_operands (hop : op.passesOn = true) (hx : x.isOperand = true)
    (hy : y.isOperand = true) (depth : Nat) :
    operateFrom (σ := σ) op depth x y = Run.value (op.apply x y) := by
  cases depth with
  | zero => rfl
  | succ depth =>
    rw [operateFrom_left hop hx]
    split
    · contradiction
    · rfl

end

variable {s : Script} {pool pool' : Pool Calls} {op : Infix} {v w x y : Value} {id : Nat}

/-- What stands for an operand: the operand, or a proxy that has it as its target, or that would
    have it after the next call of its supplier. -/
inductive StandsFor (s : Script) (pool : Pool Calls) : Value → Value → Prop
  | itself (x : Value) : StandsFor s pool x x
  | loaded {id n : Nat} {x : Value} {d : Option Value}
    (h : pool.cell id = (some (.resolved x d), n)) (p : String) (r : Value) :
    StandsFor s pool (.deferred id p r) x
  | deferred {id n : Nat} {x : Value} (h : pool.cell id = (some (.deferred (s.attempt id)), n))
    (hx : s id n = .ok x) (p : String) (r : Value) : StandsFor s pool (.deferred id p r) x

/-- A proxy whose association is there can be asked. -/
theorem exists_proxy_of_cell {a : Association Calls} {n : Nat} (h : pool.cell id = (some a, n)) :
    ∃ p, pool.proxies[id]? = some p := by
  obtain ⟨p, hp, -⟩ := Option.map_eq_some_iff.mp (congrArg Prod.fst h)
  exact ⟨p, hp⟩

theorem StandsFor.exists_proxy (h : StandsFor s pool v x) (hx : x.isOperand = true)
    (hid : v.proxyId? = some id) : ∃ p, pool.proxies[id]? = some p := by
  cases h with
  | itself =>
    rw [Value.proxyId?_of_isOperand hx] at hid
    contradiction
  | loaded h =>
    cases hid
    exact exists_proxy_of_cell h
  | deferred h =>
    cases hid
    exact exists_proxy_of_cell h

/-- All that has happened is that the proxy, if there is one, was loaded with the operand. -/
structure Loaded (s : Script) (i : Option Nat) (x : Value) (pool pool' : Pool Calls) : Prop where
  reads : Reads s pool pool'
  target : ∀ id ∈ i, pool'.loadedTarget? id = some x
  others : ∀ id, i ≠ some id → pool'.cell id = pool.cell id

/-- Removing a layer gives the operand. -/
theorem StandsFor.exec_unwrapped (h : StandsFor s pool v x) (hx : x.isOperand = true) :
    ∃ pool', Loaded s v.proxyId? x pool pool' ∧ (unwrapped v).exec pool = (.ok x, pool') := by
  cases h with
  | itself =>
    rw [Value.proxyId?_of_isOperand hx]
    refine ⟨pool, ⟨.refl _, fun _ h => (nomatch h), fun _ _ => rfl⟩, ?_⟩
    cases v <;> first | rfl | contradiction
  | @loaded id n x d h p r =>
    refine ⟨pool, ⟨.refl _, ?_, fun _ _ => rfl⟩, exec_unwrap_resolved h⟩
    rintro _ ⟨⟩
    rw [loadedTarget?, h]
    rfl
  | @deferred id n x h hs p r =>
    refine ⟨_, ⟨reads_loaded h hs, ?_, fun j hj => ?_⟩, exec_unwrap_loads h hs⟩
    · rintro _ ⟨⟩
      rw [loadedTarget?, cell_counted, cell_updated, if_pos rfl, h]
      rfl
    · have hne : j ≠ id := by
        rintro rfl
        exact hj rfl
      rw [cell_counted, cell_updated, if_neg hne, if_neg (Ne.symm hne)]

/-- While others are loaded, a proxy still stands for its operand: if it is loaded itself, then with
    what its supplier gives. -/
theorem StandsFor.reads (h : StandsFor s pool v x) (hr : Reads s pool pool') :
    StandsFor s pool' v x := by
  cases h with
  | itself => exact .itself _
  | loaded h p r => exact .loaded ((hr.asked.kept ⟨_, _, h⟩).trans h) p r
  | @deferred id n w h hx p r =>
    have hturn := hr.turn id
    rw [h] at hturn
    generalize hcell : pool'.cell id = c at hturn
    cases hturn with
    | stays => exact .deferred hcell hx p r
    | loads hv =>
      obtain rfl := Except.ok.inj (hx.symm.trans hv)
      exact .loaded hcell p r

/-- All that has happened is that the proxies among two values were loaded with the operands they
    stand for. The supplier of a proxy that was not loaded before was called once, no other one was
    called at all. -/
structure Seen (s : Script) (i j : Option Nat) (x y : Value) (pool pool' : Pool Calls) : Prop where
  reads : Reads s pool pool'
  left : ∀ id ∈ i, pool'.loadedTarget? id = some x
  right : ∀ id ∈ j, pool'.loadedTarget? id = some y
  calls : ∀ id, pool'.world id ≤ pool.world id + 1
  settled : ∀ id n, Settled pool id n → pool'.cell id = pool.cell id
  others : ∀ id, i ≠ some id → j ≠ some id → pool'.cell id = pool.cell id

theorem Turn.calls_le {c c' : Cell} (h : Turn s id c c') : c'.2 ≤ c.2 + 1 := by
  cases h with
  | stays => exact Nat.le_succ _
  | loads => exact le_rfl

/-- Loading what stands for two operands, the left one first. -/
theorem StandsFor.exec_both (hv : StandsFor s pool v x) (hw : StandsFor s pool w y)
    (hx : x.isOperand = true) (hy : y.isOperand = true) : ∃ mid pool',
      Seen s v.proxyId? w.proxyId? x y pool pool' ∧
      (unwrapped v).exec pool = (.ok x, mid) ∧ (unwrapped w).exec mid = (.ok y, pool') := by
  obtain ⟨mid, hmid, hrun⟩ := hv.exec_unwrapped hx
  obtain ⟨pool', hlast, hrun'⟩ := (hw.reads hmid.reads).exec_unwrapped hy
  have hall := hmid.reads.trans hlast.reads
  refine ⟨mid, pool', ⟨hall, fun id hi => hlast.reads.asked.loadedTarget (hmid.target id hi),
    hlast.target, fun id => (hall.turn id).calls_le, fun id n => hall.asked.kept, fun id hi hj => ?_⟩,
    hrun, hrun'⟩
  exact (hlast.others id hj).trans (hmid.others id hi)

/-! ### The operator itself -/

section

variable {σ : Type} {pool mid pool' : Pool σ}

theorem unwrapped_operand (hx : x.isOperand = true) : unwrapped (σ := σ) x = pure x := by
  cases x <;> first | rfl | contradiction

/-- What an operand is unwrapped from is a proxy or the operand. -/
theorem proxy_or_operand (hx : x.isOperand = true)
    (hv : (unwrapped v).exec pool = (.ok x, pool')) : v.isOperand = true ∨
      ∃ id p r, v = .deferred id p r := by
  cases v with
  | deferred id p r => exact .inr ⟨id, p, r, rfl⟩
  | url t =>
    obtain ⟨rfl, -⟩ := Run.exec_pure_ok hv
    contradiction
  | _ => exact .inl rfl

/-- An operator removes a layer from each side, where there is one, and is then applied. -/
theorem exec_operate (hop : op.passesOn = true) (hx : x.isOperand = true) (hy : y.isOperand = true)
    (hv : (unwrapped v).exec pool = (.ok x, mid))
    (hw : (unwrapped w).exec mid = (.ok y, pool')) :
    (operate op v w).exec pool = ((op.apply x y).mapError .misuse, pool') := by
  have happly (depth : Nat) : (operateFrom op depth x y).exec pool' =
      ((op.apply x y).mapError .misuse, pool') := by
    rw [operateFrom_operands hop hx hy]
    rfl
  rw [operate_of_passesOn hop, Run.exec_bind, Run.exec_get]
  obtain hv' | ⟨id, p, r, rfl⟩ := proxy_or_operand hx hv
  · rw [unwrapped_operand hv'] at hv
    obtain ⟨rfl, rfl⟩ := Run.exec_pure_ok hv
    obtain hw' | ⟨id, p, r, rfl⟩ := proxy_or_operand hy hw
    · rw [unwrapped_operand hw'] at hw
      obtain ⟨rfl, rfl⟩ := Run.exec_pure_ok hw
      exact happly _
    · simp only [operateFrom_left hop hx, Run.exec_bind]
      rw [show (unwrap id).exec pool = (.ok y, pool') from hw]
      exact happly _
  · simp only [operateFrom, Run.exec_bind, hw,
      show (unwrap id).exec pool = (.ok x, mid) from hv]
    exact happly _

/-! ### The methods it comes to -/

theorem dispatch_operands (hx : x.isOperand = true) (hy : y.isOperand = true) :
    dispatch (σ := σ) op x y = Run.value (op.apply x y) := by
  unfold dispatch
  split
  · contradiction
  · contradiction
  · rfl

theorem dispatch_right (hx : x.isOperand = true) (p : String) (r : Value) :
    dispatch (σ := σ) op x (.deferred id p r) =
      match op with
      | .arithmetic o => (Method.reflect o x).perform id
      | .compare c => (Method.operate (.compare c.swapped) x).perform id := by
  unfold dispatch
  split
  · contradiction
  · next h =>
    cases h
    rfl
  · next h => exact absurd rfl (h id p r)

/-- With a proxy on the left, the operator is passed on. With one on the right of an operand, an
    arithmetic operator is reflected, which keeps the order of its operands, and a comparison is
    asked the other way round. -/
theorem exec_dispatch (hop : op.passesOn = true) (hx : x.isOperand = true) (hy : y.isOperand = true)
    (hall : ∀ id, v.proxyId? = some id ∨ w.proxyId? = some id → ∃ p, pool.proxies[id]? = some p)
    (hv : (unwrapped v).exec pool = (.ok x, mid))
    (hw : (unwrapped w).exec mid = (.ok y, pool')) :
    (dispatch op v w).exec pool = ((op.apply x y).mapError .misuse, pool') := by
  obtain hv' | ⟨id, p, r, rfl⟩ := proxy_or_operand hx hv
  · rw [unwrapped_operand hv'] at hv
    obtain ⟨rfl, rfl⟩ := Run.exec_pure_ok hv
    obtain hw' | ⟨id, p, r, rfl⟩ := proxy_or_operand hy hw
    · rw [unwrapped_operand hw'] at hw
      obtain ⟨rfl, rfl⟩ := Run.exec_pure_ok hw
      rw [dispatch_operands hx hy]
      rfl
    · obtain ⟨q, hq⟩ := hall id (.inr rfl)
      rw [dispatch_right hx]
      cases op with
      | arithmetic o =>
        have happly : (operate (.arithmetic o) v y).exec pool' =
            ((Infix.apply (.arithmetic o) v y).mapError .misuse, pool') :=
          exec_operate hop hx hy (by rw [unwrapped_operand hx]; rfl)
            (by rw [unwrapped_operand hy]; rfl)
        simp only [Method.exec_perform hq, Method.on, reflect, unwrapped_operand hx, pure_bind,
          Run.exec_bind, show (unwrap id).exec pool = (.ok y, pool') from hw, happly]
      | compare c =>
        obtain ⟨heq, hne⟩ : c ≠ .eq ∧ c ≠ .ne := by simpa [Infix.passesOn] using hop
        have hswapped : Infix.passesOn (.compare c.swapped) = true := by
          cases c <;> first | rfl | contradiction
        rw [Method.exec_perform hq, Infix.apply, ← Value.compareBy_swapped hx hy heq hne]
        exact exec_operate hswapped hy hx hw (by rw [unwrapped_operand hx]; rfl)
  · obtain ⟨q, hq⟩ := hall id (.inl rfl)
    exact (Method.exec_perform hq).trans (exec_operate hop hx hy hv hw)

end

/-- However operands are replaced by proxies that stand for them, loaded or not, the outcome of an
    operator is that of the operands themselves: through the method that it comes to, and as the
    operator does it. Proxies are loaded on the way, each by one call at most. -/
theorem operators_see_through (hop : op.passesOn = true) (hx : x.isOperand = true)
    (hy : y.isOperand = true) (hv : StandsFor s pool v x) (hw : StandsFor s pool w y) :
    (dispatch op x y).exec pool = ((op.apply x y).mapError .misuse, pool) ∧
    ∃ pool', Seen s v.proxyId? w.proxyId? x y pool pool' ∧
      (dispatch op v w).exec pool = ((op.apply x y).mapError .misuse, pool') ∧
      (operate op v w).exec pool = ((op.apply x y).mapError .misuse, pool') := by
  obtain ⟨mid, pool', hseen, hv', hw'⟩ := hv.exec_both hw hx hy
  have hall (id : Nat) (h : v.proxyId? = some id ∨ w.proxyId? = some id) :
      ∃ p, pool.proxies[id]? = some p :=
    h.elim (hv.exists_proxy hx) (hw.exists_proxy hy)
  refine ⟨?_, pool', hseen, exec_dispatch hop hx hy hall hv' hw', exec_operate hop hx hy hv' hw'⟩
  rw [dispatch_operands hx hy]
  rfl

/-- A list in front of a proxy for a list: the items of the proxy's target come last. -/
theorem join_behind_list :
    let s : Script := fun _ _ => .ok (.list [.int 2])
    let pool := s.pool [("tags", .null)]
    ∃ pool', Seen s none (some 0) (.list [.int 1]) (.list [.int 2]) pool pool' ∧
      (dispatch (.arithmetic .add) (.list [.int 1]) (.deferred 0 "tags" .null)).exec pool =
        (.ok (.list [.int 1, .int 2]), pool') := by
  intro s pool
  have hw : StandsFor s pool (.deferred 0 "tags" .null) (.list [.int 2]) :=
    .deferred (n := 0) rfl rfl "tags" .null
  have hop : Infix.passesOn (.arithmetic .add) = true := rfl
  obtain ⟨-, pool', hseen, hrun, -⟩ :=
    operators_see_through hop rfl rfl (.itself (.list [.int 1])) hw
  exact ⟨pool', hseen, hrun⟩

end Pool

end LinkedDocs
