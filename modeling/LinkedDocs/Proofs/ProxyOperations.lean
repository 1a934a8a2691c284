import LinkedDocs.Proofs.ProxyLoading

/-! What each operation on proxies loads and changes.

    Questions, conversions, operators and copies only load; a few of them take a failure to load for
    the answer that there is nothing. Methods that write load first and then change the content of
    one target. An operator in place loads its operands, works out its result from the current
    target, and gives the result to the proxy that holds the target; only a mapping that takes
    entries can fail after that, with those it took. Every operation on a proxy that loads at all
    starts with that proxy, but for an operator with the proxy on its right. -/

namespace LinkedDocs.Pool

variable {s : Script} {pool pool' : Pool Calls} {id : Nat} {α β : Type}

/-! ### Operations that only load -/

namespace Loads

theorem holderFrom (depth id : Nat) : Loads s (holderFrom depth id) := by
  induction depth generalizing id with
  | zero => exact (Loads.unwrap id).bind fun _ => .pure _
  | succ depth ih =>
    refine (Loads.unwrap id).bind fun v => ?_
    cases v with
    | deferred next p r => exact ih next
    | _ => exact .pure _

theorem holder (id : Nat) : Loads s (holder id) := .get_bind fun _ => .holderFrom _ id

theorem convert (c : Conversion) (v : Value) : Loads s (convert c v) :=
  (Loads.strip v).bind fun _ => .get_bind fun _ => .value _

theorem keyFor (positional : Bool) (key : Value) : Loads s (keyFor positional key) := by
  unfold Pool.keyFor
  split
  · split
    · exact .strip _
    · exact .pure _
  · exact .pure _

theorem getItem (v key : Value) : Loads s (getItem v key) :=
  (Loads.strip v).bind fun _ => (Loads.keyFor _ key).bind fun _ => .value _

theorem proxyAttribute? (v : Value) (name : String) : Loads s (proxyAttribute? v name) := by
  unfold Pool.proxyAttribute?
  split
  · exact (Loads.proxy? _).bind fun _ => .pure _
  · exact .pure _

theorem getAttribute (v : Value) (name : String) : Loads s (getAttribute v name) := by
  refine (Loads.proxyAttribute? v name).bind fun own => ?_
  cases own with
  | some x => exact .pure x
  | none =>
    refine (Loads.strip v).bind fun v => ?_
    cases v.attribute? name with
    | some x => exact .pure x
    | none => exact .value _

theorem call (v : Value) (args : List Value) (named : Value) : Loads s (call v args named) := by
  refine (Loads.strip v).bind fun f => ?_
  cases f with
  | function => exact .pure _
  | _ => exact .value _

theorem format (fuel : Nat) (v arguments : Value) : Loads s (format fuel v arguments) := by
  induction fuel with
  | zero =>
    refine .get_bind fun pool => ?_
    split
    · exact .pure _
    · exact .value _
    · exact .value _
  | succ fuel ih =>
    refine .get_bind fun pool => ?_
    split
    · exact .pure _
    · exact .value _
    · exact (Loads.unwrap _).bind fun _ => ih

theorem operateFrom (op : Infix) (depth : Nat) (v w : Value) :
    Loads s (operateFrom op depth v w) := by
  induction depth generalizing v w with
  | zero => exact .value _
  | succ depth ih =>
    unfold Pool.operateFrom
    split
    · exact (Loads.unwrap _).bind fun a => (Loads.unwrapped w).bind fun b => ih a b
    · split
      · exact .get_bind fun _ => .format _ _ _
      · split
        · exact (Loads.unwrap _).bind fun b => ih _ b
        · exact .value _

theorem operate (op : Infix) (v w : Value) : Loads s (operate op v w) := by
  unfold Pool.operate
  split
  · exact .pure _
  · exact .pure _
  · exact .get_bind fun _ => .operateFrom _ _ v w

theorem reflect (op : Value.Operator) (id : Nat) (w : Value) : Loads s (reflect op id w) :=
  (Loads.unwrapped w).bind fun a => (Loads.unwrap id).bind fun b => .operate _ a b

/-- All operators in place but the union that a mapping takes entries in. -/
theorem updateOf {op : Value.Operator} (hop : op ≠ .or) (v w : Value) :
    Loads s (updateOf op v w) := by
  unfold Pool.updateOf
  split
  · rw [if_neg fun h => hop h.1]
    exact (Loads.operate _ _ _).bind fun _ => .pure _
  · exact .value _

theorem reduced (id : Nat) : Loads s (reduced id) :=
  (Loads.unwrap id).bind fun _ => (Loads.proxy? id).bind fun _ => .pure _

/-- Only a proxy may have to be loaded to be looked for. -/
theorem contains (v : Value) {item : Value} (hitem : ∀ id p r, item ≠ .deferred id p r) :
    Loads s (contains v item) := by
  refine (Loads.strip v).bind fun v => ?_
  unfold Pool.itemFor
  split
  · exact absurd rfl (hitem _ _ _)
  · exact (Loads.pure _).bind fun _ => .value _

end Loads

/-! ### Operations that forgive failures -/

namespace Asks

theorem seekAttribute (v : Value) : Asks s (seekAttribute v) := by
  refine (Loads.strip v).asks.attempt.bind fun r => ?_
  split
  · exact (Loads.pure _).asks
  · exact (Loads.pure _).asks
  · exact (Loads.lift _).asks

theorem updateOf (op : Value.Operator) (v w : Value) : Asks s (updateOf op v w) := by
  unfold Pool.updateOf
  split
  · split
    · exact (seekAttribute _).bind fun _ => ((Loads.strip _).bind fun _ => .value _).asks
    · exact ((Loads.operate _ _ _).bind fun _ => .pure _).asks
  · exact (Loads.value _).asks

theorem itemFor (v item : Value) : Asks s (itemFor v item) := by
  unfold Pool.itemFor
  split
  · refine (Loads.strip _).asks.attempt.bind fun r => ?_
    split
    · exact (Loads.pure _).asks
    · exact (Loads.value _).asks
  · exact (Loads.pure _).asks

theorem contains (v item : Value) : Asks s (contains v item) :=
  (Loads.strip v).asks.bind fun v => (itemFor v item).bind fun _ => (Loads.value _).asks

mutual

theorem deepCopyFrom (asks : Bool) (depth : Nat) (v : Value) :
    Asks s (deepCopyFrom asks depth v) := by
  unfold Pool.deepCopyFrom
  split
  · rename_i id p r depth
    have hcopy := (Loads.unwrap id).asks.bind fun v => deepCopyFrom asks depth v
    split
    · exact (seekAttribute _).bind fun _ => hcopy
    · exact hcopy
  · exact (deepCopyAll asks _ _).bind fun _ => (Loads.pure _).asks
  · exact (deepCopyAll asks _ _).bind fun _ => (Loads.pure _).asks
  · exact (deepCopyEntries asks _ _).bind fun _ => (Loads.pure _).asks
  · exact (Loads.pure _).asks
termination_by (depth, sizeOf v)

theorem deepCopyAll (asks : Bool) (depth : Nat) (vs : List Value) :
    Asks s (deepCopyAll asks depth vs) := by
  unfold Pool.deepCopyAll
  split
  · exact (Loads.pure _).asks
  · exact (deepCopyFrom asks depth _).bind fun _ => (deepCopyAll asks depth _).bind fun _ =>
      (Loads.pure _).asks
termination_by (depth, sizeOf vs)

theorem deepCopyEntries (asks : Bool) (depth : Nat) (es : List (Value × Value)) :
    Asks s (deepCopyEntries asks depth es) := by
  unfold Pool.deepCopyEntries
  split
  · exact (Loads.pure _).asks
  · exact (deepCopyFrom asks depth _).bind fun _ => (deepCopyEntries asks depth _).bind fun _ =>
      (Loads.pure _).asks
termination_by (depth, sizeOf es)

end

/-- However a proxy is copied. -/
theorem copy (kind : CopyKind) (id : Nat) : Asks s (copy kind id) := by
  unfold Pool.copy
  split
  · exact (Loads.reduced id).asks
  · refine (Loads.proxy? id).asks.bind fun p => ?_
    split
    · exact (Loads.value _).asks
    · exact Loads.get.asks.bind fun pool => (deepCopyFrom _ _ _).bind fun _ => (Loads.pure _).asks

end Asks

theorem itemFor_ok {v item b : Value} (hp : Scripted s pool)
    (hx : (itemFor v item).exec pool = (.ok b, pool')) : Reads s pool pool' := by
  unfold itemFor at hx
  split at hx
  · rename_i bs bytes id p r
    match hs : (strip (.deferred id p r)).exec pool with
    | (.ok a, mid) =>
      rw [Run.exec_bind, Run.exec_attempt, hs] at hx
      dsimp only at hx
      split at hx
      · obtain ⟨-, rfl⟩ := Run.exec_pure_ok hx
        exact (Loads.strip (.deferred id p r)).ok hp hs
      · nomatch congrArg Prod.fst hx
    | (.error f, mid) =>
      rw [Run.exec_bind, Run.exec_attempt, hs] at hx
      nomatch congrArg Prod.fst hx
  · obtain ⟨-, rfl⟩ := Run.exec_pure_ok hx
    exact .refl _

/-- What is looked for, and found or not, was loaded. -/
theorem contains_ok {v item a : Value} (hp : Scripted s pool)
    (hx : (contains v item).exec pool = (.ok a, pool')) : Reads s pool pool' := by
  obtain ⟨t, mid, ht, hx⟩ := Run.exec_bind_ok hx
  obtain ⟨b, mid', hb, hx⟩ := Run.exec_bind_ok hx
  have hmid := (Loads.strip v).ok hp ht
  have hmid' := itemFor_ok (hmid.asked.scripted hp) hb
  have hend := (Loads.value (s := s) _).ok (hmid'.asked.scripted (hmid.asked.scripted hp)) hx
  exact (hmid.trans hmid').trans hend

/-! ### Operations that start with a proxy -/

/-- A computation that unwraps the proxy before anything else, and then keeps what is loaded. -/
def StartsWith (s : Script) (id : Nat) (x : Use Calls α) : Prop :=
  ∃ rest : Pool Calls → Value → Use Calls α, (∀ pool v, Steady s (rest pool v)) ∧
    ∀ pool, x.exec pool = (unwrap id >>= rest pool).exec pool

namespace StartsWith

theorem unwrap_bind {f : Value → Use Calls α} (hf : ∀ v, Steady s (f v)) :
    StartsWith s id (unwrap id >>= f) :=
  ⟨fun _ => f, fun _ => hf, fun _ => rfl⟩

theorem unwrap (id : Nat) : StartsWith s id (unwrap id) :=
  ⟨fun _ v => pure v, fun _ v => (Loads.pure v).steady, fun _ => by rw [bind_pure]⟩

/-- Looking at the pool is not a start. -/
theorem get_bind {f : Pool Calls → Use Calls α} (hf : ∀ pool, StartsWith s id (f pool)) :
    StartsWith s id (get >>= f) := by
  choose rest hrest heq using hf
  refine ⟨fun pool => rest pool pool, fun pool => hrest pool pool, fun pool => ?_⟩
  rw [← heq, Run.exec_bind, Run.exec_get]

theorem bind {x : Use Calls α} {f : α → Use Calls β} (hx : StartsWith s id x)
    (hf : ∀ a, Steady s (f a)) : StartsWith s id (x >>= f) := by
  obtain ⟨rest, hrest, heq⟩ := hx
  refine ⟨fun pool v => rest pool v >>= f, fun pool v => (hrest pool v).bind hf, fun pool => ?_⟩
  rw [← bind_assoc, Run.exec_bind, heq, ← Run.exec_bind]

/-- If the first call fails, nothing else happens. -/
theorem fails {x : Use Calls α} {f : Failure} {n : Nat} (hx : StartsWith s id x)
    (hc : pool.cell id = (some (.deferred (s.attempt id)), n)) (hf : s id n = .error f) :
    x.exec pool = (.error f, pool.counted id (n + 1)) := by
  obtain ⟨rest, -, heq⟩ := hx
  rw [heq, Run.exec_bind, exec_unwrap_fails hc hf]

/-- If it gives a value, the proxy is loaded at the end, by this one call. -/
theorem settles {x : Use Calls α} {v : Value} {n : Nat} (hx : StartsWith s id x)
    (hp : Scripted s pool) (hc : pool.cell id = (some (.deferred (s.attempt id)), n))
    (hv : s id n = .ok v) : Settled (x.exec pool).2 id (n + 1) := by
  obtain ⟨rest, hrest, heq⟩ := hx
  have hmid := reads_loaded hc hv
  rw [heq, Run.exec_bind, exec_unwrap_loads hc hv]
  refine (hrest pool v).settled (hmid.asked.scripted hp) ?_
  refine ⟨v, none, ?_⟩
  rw [cell_counted, cell_updated, if_pos rfl, if_pos rfl, hc]
  rfl

theorem stripFrom (depth : Nat) (p : String) (r : Value) :
    StartsWith s id (stripFrom (depth + 1) (.deferred id p r)) :=
  unwrap_bind fun v => (Loads.stripFrom depth v).steady

theorem strip (p : String) (r : Value) : StartsWith s id (strip (.deferred id p r)) :=
  get_bind fun _ => stripFrom _ p r

theorem holder (id : Nat) : StartsWith s id (holder id) := by
  refine get_bind fun pool => ?_
  cases pool.proxies.length with
  | zero => exact unwrap_bind fun _ => (Loads.pure _).steady
  | succ depth =>
    refine unwrap_bind fun v => ?_
    cases v with
    | deferred next p r => exact (Loads.holderFrom depth next).steady
    | _ => exact (Loads.pure _).steady

theorem operate {op : Infix} (heq : op ≠ .compare .eq) (hne : op ≠ .compare .ne) (p : String)
    (r w : Value) : StartsWith s id (operate op (.deferred id p r) w) := by
  have hfrom : Pool.operate (σ := Calls) op (.deferred id p r) w =
      get >>= fun pool => operateFrom op (2 * pool.proxies.length + 1) (.deferred id p r) w := by
    unfold Pool.operate
    split
    · contradiction
    · contradiction
    · rfl
  rw [hfrom]
  refine get_bind fun pool => unwrap_bind fun a => ?_
  exact ((Loads.unwrapped w).bind fun b => .operateFrom _ _ a b).steady

end StartsWith

/-! ### Methods that write -/

/-- Some proxies are loaded, and then the target that the proxy's chain leads to changes its
    content. -/
def Changed (s : Script) (id : Nat) (pool pool' : Pool Calls) : Prop :=
  ∃ mid h v, Reads s pool mid ∧ Leads mid id h ∧ pool' = mid.updated h (Association.change v)

/-- A computation that loads, and then changes the content of the target that the proxy's chain
    leads to. It fails before the change or not at all. -/
structure Changes (s : Script) (id : Nat) (x : Use Calls α) : Prop where
  ok : ∀ {pool pool' a}, Scripted s pool → x.exec pool = (.ok a, pool') → Changed s id pool pool'
  error : FailsEarly s x

theorem Changed.steady (id : Nat) {x : Use Calls α}
    (h : ∀ {pool r pool'}, Scripted s pool → x.exec pool = (r, pool') →
      Asked s pool pool' ∨ Changed s id pool pool') : Steady s x where
  scripted {pool} hp := by
    rcases h hp (Prod.eta (x.exec pool)).symm with hasked | ⟨mid, h, v, hreads, -, hmid⟩
    · exact hasked.scripted hp
    · rw [hmid]
      exact (Retargets.change v).scripted (hreads.asked.scripted hp)
  settled {pool j n} hp hs := by
    rcases h hp (Prod.eta (x.exec pool)).symm with hasked | ⟨mid, h, v, hreads, -, hmid⟩
    · exact hasked.settled hs
    · rw [hmid]
      exact (Retargets.change v).settled (hreads.asked.settled hs)

theorem holderFrom_ok {depth h : Nat} {v : Value} (hp : Scripted s pool)
    (hx : (holderFrom depth id).exec pool = (.ok (h, v), pool')) :
    Reads s pool pool' ∧ Leads pool' id h ∧ pool'.loadedTarget? h = some v := by
  induction depth generalizing id pool with
  | zero =>
    obtain ⟨w, mid, hw, hr⟩ := Run.exec_bind_ok hx
    obtain ⟨hpair, rfl⟩ := Run.exec_pure_ok hr
    obtain ⟨rfl, rfl⟩ := Prod.mk.inj hpair
    obtain ⟨hreads, htarget⟩ := unwrap_ok hp hw
    exact ⟨hreads, .refl, htarget⟩
  | succ depth ih =>
    obtain ⟨w, mid, hw, hr⟩ := Run.exec_bind_ok hx
    obtain ⟨hreads, htarget⟩ := unwrap_ok hp hw
    cases w with
    | deferred next p r =>
      obtain ⟨hreads', hleads, hv⟩ := ih (hreads.asked.scripted hp) hr
      have hlink : ∃ p r, pool'.loadedTarget? id = some (.deferred next p r) :=
        ⟨p, r, hreads'.asked.loadedTarget htarget⟩
      exact ⟨hreads.trans hreads', .head hlink hleads, hv⟩
    | _ =>
      obtain ⟨hpair, rfl⟩ := Run.exec_pure_ok hr
      obtain ⟨rfl, rfl⟩ := Prod.mk.inj hpair
      exact ⟨hreads, .refl, htarget⟩

theorem holder_ok {h : Nat} {v : Value} (hp : Scripted s pool)
    (hx : (holder id).exec pool = (.ok (h, v), pool')) :
    Reads s pool pool' ∧ Leads pool' id h ∧ pool'.loadedTarget? h = some v :=
  holderFrom_ok hp hx

namespace Changes

/-- Loads, works out the content, and changes it. -/
theorem of_holder {γ : Type} {g : Nat × Value → Use Calls β} (hg : ∀ hv, Loads s (g hv))
    (content : β → Value) (result : β → γ) :
    Changes s id (holder id >>= fun hv => g hv >>= fun b =>
      modifyAssociation hv.1 (Association.change (content b)) >>= fun _ => pure (result b)) where
  ok hp hx := by
    obtain ⟨⟨h, v⟩, mid, hh, hx⟩ := Run.exec_bind_ok hx
    obtain ⟨b, mid', hb, hx⟩ := Run.exec_bind_ok hx
    obtain ⟨hreads, hleads, -⟩ := holder_ok hp hh
    have hreads' := (hg (h, v)).ok (hreads.asked.scripted hp) hb
    exact ⟨mid', h, content b, hreads.trans hreads', hleads.asked hreads'.asked,
      congrArg Prod.snd hx.symm⟩
  error := .bind (Loads.holder id) fun hv => .bind (hg hv) fun _ _ _ _ _ hx =>
    nomatch congrArg Prod.fst hx

theorem modifyTarget {f : Value → Use Calls Value} (hf : ∀ v, Loads s (f v)) :
    Changes s id (modifyTarget id f) :=
  of_holder (fun hv => hf hv.2) (fun v => v) fun _ => ()

theorem setItem (key item : Value) : Changes s id (setItem id key item) :=
  modifyTarget fun _ => (Loads.keyFor _ key).bind fun _ => .value _

theorem deleteItem (key : Value) : Changes s id (deleteItem id key) :=
  modifyTarget fun _ => (Loads.keyFor _ key).bind fun _ => .value _

theorem setAttribute (name : String) (x : Value) : Changes s id (setAttribute id name x) :=
  modifyTarget fun _ => .value _

theorem deleteAttribute (name : String) : Changes s id (deleteAttribute id name) :=
  modifyTarget fun _ => .value _

theorem andThen {x : Use Calls α} (hx : Changes s id x) (b : β) :
    Changes s id (x >>= fun _ => pure b) where
  ok hp h := by
    obtain ⟨a, mid, ha, h⟩ := Run.exec_bind_ok h
    obtain ⟨-, rfl⟩ := Run.exec_pure_ok h
    exact hx.ok hp ha
  error _ _ _ hp h := by
    rcases Run.exec_bind_error h with ha | ⟨a, mid, -, h⟩
    · exact hx.error hp ha
    · nomatch congrArg Prod.fst h

end Changes

/-- A method of the target may have changed it when it fails. -/
theorem callTarget_cases {name : String} {args : List Value} {r : Except Failure Value}
    (hp : Scripted s pool) (hx : (callTarget id name args).exec pool = (r, pool')) :
    (∃ f, r = .error f ∧ Stopped s f pool pool') ∨ Changed s id pool pool' := by
  match hh : (holder id).exec pool with
  | (.error f, mid) =>
    rw [callTarget, Run.exec_bind, hh] at hx
    obtain ⟨rfl, rfl⟩ := Prod.mk.inj hx
    exact .inl ⟨f, rfl, (Loads.holder id).error hp hh⟩
  | (.ok (h, v), mid) =>
    rw [callTarget, Run.exec_bind, hh] at hx
    obtain ⟨hreads, hleads, -⟩ := holder_ok hp hh
    exact .inr ⟨mid, h, _, hreads, hleads, (congrArg Prod.snd hx).symm⟩

/-! ### Operators in place -/

/-- What an operator in place does unless it fails before. After some loading, the proxy's chain
    leads to a current target, and the operand is down to a value; the operator's result on the two
    is given to the proxy that holds the target, and to no other. -/
def Replaces (s : Script) (op : Value.Operator) (id : Nat) (w : Value) (u : Update)
    (pool pool' : Pool Calls) : Prop :=
  ∃ before after h v b, Reads s pool before ∧ Leads before id h ∧
    before.loadedTarget? h = some v ∧ Peels before w b ∧
    (updateOf op v b).exec before = (.ok u, after) ∧ pool' = after.updated h u.apply

/-- An operator in place fails before it does anything, or it ends as its result says. -/
def Updates (s : Script) (op : Value.Operator) (id : Nat) (w : Value) (pool : Pool Calls)
    (r : Except Failure Unit) (pool' : Pool Calls) : Prop :=
  (∃ f, r = .error f ∧ Asked s pool pool') ∨
  ∃ u, Replaces s op id w u pool pool' ∧ r = u.outcome.mapError .misuse

theorem updates_target {op : Value.Operator} {v w b : Value} {before : Pool Calls}
    {r : Except Failure Unit} (hp : Scripted s before) (hreads : Reads s pool before)
    (htarget : before.loadedTarget? id = some v) (hpeels : Peels before w b)
    (hx : (updateTarget op id v b).exec before = (r, pool')) : Updates s op id w pool r pool' := by
  rw [updateTarget, Run.exec_bind] at hx
  match hu : (updateOf op v b).exec before with
  | (.error f, after) =>
    rw [hu] at hx
    obtain ⟨rfl, rfl⟩ := Prod.mk.inj hx
    have hasked := Asks.updateOf op v b hp
    rw [hu] at hasked
    exact .inl ⟨f, rfl, hreads.asked.trans hasked⟩
  | (.ok u, after) =>
    rw [hu] at hx
    obtain ⟨rfl, rfl⟩ := Prod.mk.inj hx
    exact .inr ⟨u, ⟨before, after, id, v, b, hreads, .refl, htarget, hpeels, hu, rfl⟩, rfl⟩

/-- An update further down the chain, with the operand as it is there. -/
theorem Updates.link {op : Value.Operator} {w b : Value} {before : Pool Calls} {next : Nat}
    {p : String} {t : Value} {r : Except Failure Unit} (h : Updates s op next b before r pool')
    (hreads : Reads s pool before)
    (htarget : before.loadedTarget? id = some (.deferred next p t)) (hpeels : Peels before w b) :
    Updates s op id w pool r pool' := by
  obtain ⟨f, hf, hasked⟩ | ⟨u, ⟨before', after, h, v, b', hreads', hrest⟩, hr⟩ := h
  · exact .inl ⟨f, hf, hreads.asked.trans hasked⟩
  · obtain ⟨hleads, hv, hpeels', hu, hupdated⟩ := hrest
    have hlink : ∃ p r, before'.loadedTarget? id = some (.deferred next p r) :=
      ⟨p, t, hreads'.asked.loadedTarget htarget⟩
    exact .inr ⟨u, ⟨before', after, h, v, b', hreads.trans hreads', .head hlink hleads, hv,
      (hpeels.asked hreads'.asked).trans hpeels', hu, hupdated⟩, hr⟩

/-- The proxy and the operand lose a layer. -/
theorem updates_unwrap {op : Value.Operator} {w : Value} {x : Value → Value → Use Calls Unit}
    {r : Except Failure Unit} (hp : Scripted s pool)
    (hx : (unwrap id >>= fun v => unwrapped w >>= x v).exec pool = (r, pool'))
    (hrest : ∀ {before v b}, Scripted s before → Reads s pool before →
      before.loadedTarget? id = some v → Peels before w b →
      (x v b).exec before = (r, pool') → Updates s op id w pool r pool') :
    Updates s op id w pool r pool' := by
  rw [Run.exec_bind] at hx
  match hv : (unwrap id).exec pool with
  | (.error f, mid) =>
    rw [hv] at hx
    obtain ⟨rfl, rfl⟩ := Prod.mk.inj hx
    exact .inl ⟨f, rfl, ((Loads.unwrap id).error hp hv).asked⟩
  | (.ok v, mid) =>
    obtain ⟨hmid, htarget⟩ := unwrap_ok hp hv
    have hpmid := hmid.asked.scripted hp
    rw [hv] at hx
    dsimp only at hx
    rw [Run.exec_bind] at hx
    match hb : (unwrapped w).exec mid with
    | (.error f, before) =>
      rw [hb] at hx
      obtain ⟨rfl, rfl⟩ := Prod.mk.inj hx
      exact .inl ⟨f, rfl, hmid.asked.trans ((Loads.unwrapped w).error hpmid hb).asked⟩
    | (.ok b, before) =>
      rw [hb] at hx
      have hbefore := (Loads.unwrapped w).ok hpmid hb
      exact hrest (hbefore.asked.scripted hpmid) (hmid.trans hbefore)
        (hbefore.asked.loadedTarget htarget) (peels_unwrapped hpmid hb) hx

theorem updateFrom_updates {op : Value.Operator} {depth : Nat} {w : Value}
    {r : Except Failure Unit} (hp : Scripted s pool)
    (hx : (updateFrom op depth id w).exec pool = (r, pool')) :
    Updates s op id w pool r pool' := by
  induction depth generalizing id w pool with
  | zero => exact updates_unwrap hp hx updates_target
  | succ depth ih =>
    refine updates_unwrap hp hx fun {before v b} hbefore hreads htarget hpeels hx => ?_
    cases v with
    | deferred next p t => exact (ih hbefore hx).link hreads htarget hpeels
    | _ => exact updates_target hbefore hreads htarget hpeels hx

/-! ### Operators in place that take no entries -/

theorem outcome_updateInPlace {op : Value.Operator} (hop : op ≠ .or) {v w : Value} {u : Update}
    (h : updateInPlace op v w = .ok u) : u.outcome = .ok () := by
  have hmap : ∀ {α : Type} {x : Except Misuse α} {g : α → Update}, x.map g = .ok u →
      (∀ a, (g a).outcome = .ok ()) → u.outcome = .ok () := by
    intro α x g hx hg
    obtain m | a := x
    · cases hx
    · obtain rfl := Except.ok.inj hx
      exact hg a
  unfold updateInPlace at h
  split at h
  · exact hmap h fun _ => rfl
  · exact hmap h fun _ => rfl
  · exact absurd rfl hop
  · refine hmap h fun r => ?_
    unfold Update.ofResult
    split <;> rfl

theorem outcome_updateOf {op : Value.Operator} (hop : op ≠ .or) {v w : Value} {u : Update}
    (h : (updateOf op v w).exec pool = (.ok u, pool')) : u.outcome = .ok () := by
  unfold updateOf at h
  split at h
  · rw [if_neg fun h => hop h.1] at h
    obtain ⟨a, mid, -, hpure⟩ := Run.exec_bind_ok h
    obtain ⟨rfl, -⟩ := Run.exec_pure_ok hpure
    rfl
  · refine outcome_updateInPlace hop (w := w) (v := v) ?_
    have hvalue := congrArg Prod.fst h
    cases hr : updateInPlace op v w with
    | error m =>
      rw [hr] at hvalue
      cases hvalue
    | ok u' =>
      rw [hr] at hvalue
      exact congrArg Except.ok (Except.ok.inj hvalue)

/-- A failure of the operator comes before any update. -/
theorem failsEarly_updateTarget {op : Value.Operator} (hop : op ≠ .or) (id : Nat) (v b : Value) :
    FailsEarly s (updateTarget op id v b) := by
  intro pool pool' f hp hx
  rcases Run.exec_bind_error hx with hu | ⟨u, mid, hu, hx⟩
  · exact (Loads.updateOf hop v b).error hp hu
  · have hend : (Run.value u.outcome : Use Calls Unit) = pure () := by
      rw [outcome_updateOf hop hu]
      rfl
    rw [hend] at hx
    nomatch congrArg Prod.fst hx

theorem failsEarly_updateFrom {op : Value.Operator} (hop : op ≠ .or) (depth id : Nat) (w : Value) :
    FailsEarly s (updateFrom op depth id w) := by
  induction depth generalizing id w with
  | zero =>
    exact .bind (.unwrap id) fun v => .bind (.unwrapped w) fun b =>
      failsEarly_updateTarget hop id v b
  | succ depth ih =>
    refine .bind (.unwrap id) fun v => .bind (.unwrapped w) fun b => ?_
    cases v with
    | deferred next p r => exact ih next b
    | _ => exact failsEarly_updateTarget hop id _ b

/-! ### What stays after an operator in place -/

theorem steady_updateTarget (op : Value.Operator) (id : Nat) (v b : Value) :
    Steady s (updateTarget op id v b) :=
  (Asks.updateOf op v b).steady.bind fun u =>
    ((Retargets.apply u).steady id).bind fun _ => (Loads.value _).steady

theorem steady_updateFrom (op : Value.Operator) (depth id : Nat) (w : Value) :
    Steady s (updateFrom op depth id w) := by
  induction depth generalizing id w with
  | zero =>
    exact (Loads.unwrap id).steady.bind fun v => (Loads.unwrapped w).steady.bind fun b =>
      steady_updateTarget op id v b
  | succ depth ih =>
    refine (Loads.unwrap id).steady.bind fun v => (Loads.unwrapped w).steady.bind fun b => ?_
    cases v with
    | deferred next p r => exact ih next b
    | _ => exact steady_updateTarget op id _ b

theorem asked_updateOf {op : Value.Operator} {v b : Value} {u : Update} {before after : Pool Calls}
    (hp : Scripted s before) (hu : (updateOf op v b).exec before = (.ok u, after)) :
    Asked s before after := by
  have hasked := Asks.updateOf op v b hp
  rwa [hu] at hasked

theorem Replaces.settled {op : Value.Operator} {w : Value} {u : Update} (hp : Scripted s pool)
    (h : Replaces s op id w u pool pool') : ∃ n, Settled pool' id n := by
  obtain ⟨before, after, h, v, b, hreads, hleads, hv, -, hu, rfl⟩ := h
  obtain ⟨v', hv'⟩ := hleads.loadedTarget hv
  obtain ⟨n, hn⟩ := settled_of_loadedTarget hv'
  have hafter := asked_updateOf (hreads.asked.scripted hp) hu
  exact ⟨n, (Retargets.apply u).settled (hafter.settled hn)⟩

/-- Giving back the target changes nothing. -/
theorem operateInPlace_updates {op : Value.Operator} (hop : updatesProxy op = true)
    {self w : Value} {r : Except Failure (Bool × Value)} (hp : Scripted s pool)
    (hx : (operateInPlace op id self w).exec pool = (r, pool')) :
    Updates s op id w pool (r.map fun _ => ()) pool' := by
  rw [operateInPlace, if_pos hop, Run.exec_bind, Run.exec_get] at hx
  simp only [Run.exec_bind] at hx
  match hu : (updateFrom op pool.proxies.length id w).exec pool with
  | (.error f, mid) =>
    rw [hu] at hx
    obtain ⟨rfl, rfl⟩ := Prod.mk.inj hx
    exact updateFrom_updates hp hu
  | (.ok (), mid) =>
    have hupdates := updateFrom_updates hp hu
    obtain ⟨f, hf, -⟩ | ⟨u, hreplaces, -⟩ := hupdates
    · cases hf
    · obtain ⟨n, v, d, hc⟩ := hreplaces.settled hp
      rw [hu] at hx
      simp only [exec_unwrap_resolved hc] at hx
      obtain ⟨rfl, rfl⟩ := Prod.mk.inj hx
      exact updateFrom_updates hp hu

theorem steady_operateInPlace {op : Value.Operator} (hop : updatesProxy op = true)
    (self w : Value) : Steady s (operateInPlace op id self w) := by
  rw [operateInPlace, if_pos hop]
  refine Loads.get.steady.bind fun pool => (steady_updateFrom op _ id w).bind fun _ => ?_
  exact ((Loads.unwrap id).bind fun _ => .pure _).steady

theorem failsEarly_operateInPlace {op : Value.Operator} (hop : updatesProxy op = true)
    (hor : op ≠ .or) (self w : Value) : FailsEarly s (operateInPlace op id self w) := by
  intro pool pool' f hp hx
  rw [operateInPlace, if_pos hop, Run.exec_bind, Run.exec_get] at hx
  rcases Run.exec_bind_error hx with hu | ⟨⟨⟩, mid, hu, hx⟩
  · exact failsEarly_updateFrom hor _ _ _ hp hu
  · obtain ⟨f', hf', -⟩ | ⟨u, hreplaces, -⟩ := updateFrom_updates hp hu
    · cases hf'
    · obtain ⟨n, v', d, hc⟩ := hreplaces.settled hp
      rw [Run.exec_bind, exec_unwrap_resolved hc] at hx
      nomatch congrArg Prod.fst hx

namespace StartsWith

theorem updateFrom (op : Value.Operator) (depth : Nat) (w : Value) :
    StartsWith s id (updateFrom op depth id w) := by
  cases depth with
  | zero =>
    exact unwrap_bind fun v => (Loads.unwrapped w).steady.bind fun b =>
      steady_updateTarget op id v b
  | succ depth =>
    refine unwrap_bind fun v => (Loads.unwrapped w).steady.bind ?_
    cases v with
    | deferred next p r => exact steady_updateFrom op depth next
    | _ => exact fun b => steady_updateTarget op id _ b

theorem operateInPlace {op : Value.Operator} (hop : updatesProxy op = true) (self w : Value) :
    StartsWith s id (operateInPlace op id self w) := by
  rw [Pool.operateInPlace, if_pos hop]
  refine get_bind fun pool => (updateFrom op _ w).bind fun _ => ?_
  exact ((Loads.unwrap id).bind fun _ => .pure _).steady

theorem of_holder {γ : Type} {g : Nat × Value → Use Calls β} (hg : ∀ hv, Loads s (g hv))
    (content : β → Value) (result : β → γ) :
    StartsWith s id (Pool.holder id >>= fun hv => g hv >>= fun b =>
      modifyAssociation hv.1 (Association.change (content b)) >>= fun _ => pure (result b)) :=
  (holder id).bind fun hv => (hg hv).steady.bind fun _ =>
    ((Retargets.change _).steady hv.1).bind fun _ => (Loads.pure _).steady

theorem modifyTarget {f : Value → Use Calls Value} (hf : ∀ v, Loads s (f v)) :
    StartsWith s id (modifyTarget id f) :=
  of_holder (fun hv => hf hv.2) (fun v => v) fun _ => ()

theorem callTarget (name : String) (args : List Value) :
    StartsWith s id (callTarget id name args) :=
  (holder id).bind fun hv => ((Retargets.change _).steady hv.1).bind fun _ =>
    (Loads.value _).steady

theorem getAttribute {name : String} (hname : ∀ p : Proxy Calls, ownAttribute? p name = none)
    (q : String) (r : Value) : StartsWith s id (getAttribute (.deferred id q r) name) := by
  have hown : ∀ p : Option (Proxy Calls), p.bind (ownAttribute? · name) = none := by
    intro p
    cases p with
    | none => rfl
    | some p => exact hname p
  have hget : Pool.getAttribute (σ := Calls) (.deferred id q r) name =
      Pool.strip (.deferred id q r) >>= fun v =>
        (v.attribute? name).elim (Run.value (.error .attribute)) pure := by
    have hlook : ∀ x : Use Calls Value, (proxy? id >>= fun _ => x) = x := fun _ => rfl
    simp only [Pool.getAttribute, Pool.proxyAttribute?, bind_assoc, pure_bind, hown, hlook]
    refine congrArg _ (funext fun v => ?_)
    cases v.attribute? name <;> rfl
  rw [hget]
  refine (strip q r).bind fun v => ?_
  cases v.attribute? name with
  | some x => exact (Loads.pure x).steady
  | none => exact (Loads.value _).steady

theorem call (args : List Value) (named : Value) (q : String) (r : Value) :
    StartsWith s id (call (.deferred id q r) args named) := by
  refine (strip q r).bind fun f => ?_
  cases f with
  | function => exact (Loads.pure _).steady
  | _ => exact (Loads.value _).steady

theorem reduced (id : Nat) : StartsWith s id (reduced id) :=
  unwrap_bind fun _ => ((Loads.proxy? id).bind fun _ => .pure _).steady

end StartsWith

end LinkedDocs.Pool
