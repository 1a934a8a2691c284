import LinkedDocs.Run
import LinkedDocs.Value.Shown

/-! Lazily loaded references.

    A proxy stands for the target of a reference and loads it on first use. Its association is
    deferred until an attempt to load succeeds and resolved ever after; a failed attempt leaves it
    deferred. Proxies may stand for other proxies, so they live in a pool and refer to each other by
    number. -/

namespace LinkedDocs

/-- What a proxy knows of its target; `σ` is the state that attempts to load work on. -/
inductive Association (σ : Type) where
  | deferred (attempt : Run σ Value)
  /-- The target. When an operator has put another value in the place of the one that was loaded,
      `detached` is the present content of the loaded one. -/
  | resolved (target : Value) (detached : Option Value)

namespace Association

variable {σ : Type}

def isResolved : Association σ → Bool
  | .deferred _ => false
  | .resolved .. => true

/-- The target, if it is loaded. -/
def target? : Association σ → Option Value
  | .deferred _ => none
  | .resolved v _ => some v

/-- The target, loaded now unless it was before, and the association after that. -/
def load : Association σ → σ → Except Failure Value × Association σ × σ
  | .resolved v d, s => (.ok v, .resolved v d, s)
  | .deferred attempt, s =>
    match attempt.exec s with
    | (.ok v, s) => (.ok v, .resolved v none, s)
    | (.error f, s) => (.error f, .deferred attempt, s)

/-- The target's content changed; it is still the same object. -/
def change (v : Value) : Association σ → Association σ
  | .deferred attempt => .deferred attempt
  | .resolved _ d => .resolved v d

/-- Another value takes the target's place. -/
def rebind (v : Value) : Association σ → Association σ
  | .deferred attempt => .deferred attempt
  | .resolved old d => .resolved v (some (d.getD old))

/-- The present content of the object that was loaded. -/
def loaded? : Association σ → Option Value
  | .deferred _ => none
  | .resolved v d => some (d.getD v)

/-- Whether the target is the object that was loaded. -/
def holdsLoaded : Association σ → Bool
  | .resolved _ none => true
  | _ => false

end Association

/-- A proxy: its property, the stored reference value, and its target. -/
structure Proxy (σ : Type) where
  property : String
  source : Value
  association : Association σ

/-- All proxies and the state that loading works on. -/
structure Pool (σ : Type) where
  proxies : List (Proxy σ)
  world : σ

/-- A use of proxies. -/
abbrev Use (σ α : Type) := Run (Pool σ) α

namespace Pool

variable {σ : Type}

/-- The proxy's value: a reference to it by its number. -/
def reference (id : Nat) (p : Proxy σ) : Value := .deferred id p.property p.source

/-- Adds a proxy that is not loaded yet. -/
def defer (pool : Pool σ) (property : String) (source : Value) (attempt : Run σ Value) :
    Pool σ × Value :=
  let p : Proxy σ := ⟨property, source, .deferred attempt⟩
  ({ pool with proxies := pool.proxies ++ [p] }, reference pool.proxies.length p)

def setAssociation (pool : Pool σ) (id : Nat) (a : Association σ) : Pool σ :=
  { pool with proxies := pool.proxies.modify id fun p => { p with association := a } }

/-- The target of a proxy, loaded if need be. That an attempt is noted down is left out: sources are
    taken to have a shown form. -/
def unwrap (id : Nat) : Use σ Value := Run.of fun pool =>
  match pool.proxies[id]? with
  | none => (.error (.misuse .attribute), pool)
  | some p =>
    match p.association.load pool.world with
    | (r, a, w) => (r, { (pool.setAssociation id a) with world := w })

/-- The value with one layer removed. -/
def unwrapped (v : Value) : Use σ Value :=
  match v with
  | .deferred id _ _ => unwrap id
  | v => pure v

/-- The proxy of a number. -/
def proxy? (id : Nat) : Use σ (Option (Proxy σ)) := do
  let pool ← get
  pure pool.proxies[id]?

/-- All layers removed, following at most `depth` proxies. -/
def stripFrom : (depth : Nat) → Value → Use σ Value
  | 0, v => pure v
  | depth + 1, v =>
    match v with
    | .deferred id _ _ => do
      let v ← unwrap id
      stripFrom depth v
    | v => pure v

/-- The value behind any number of proxies. -/
def strip (v : Value) : Use σ Value := do
  let pool ← get
  stripFrom (pool.proxies.length + 1) v

/-- The last proxy of a chain and its target. -/
def holderFrom : (depth : Nat) → Nat → Use σ (Nat × Value)
  | 0, id => do
    let v ← unwrap id
    pure (id, v)
  | depth + 1, id => do
    match ← unwrap id with
    | .deferred next _ _ => holderFrom depth next
    | v => pure (id, v)

/-- The last proxy of a chain and its target, which is no proxy. -/
def holder (id : Nat) : Use σ (Nat × Value) := do
  let pool ← get
  holderFrom pool.proxies.length id

/-- Changes the association of a proxy. -/
def modifyAssociation (id : Nat) (f : Association σ → Association σ) : Use σ Unit :=
  modify fun pool =>
    { pool with
      proxies := pool.proxies.modify id fun p => { p with association := f p.association } }

/-- The shown targets of the loaded proxies; a chain of proxies is followed `depth` times. -/
def shownTarget (pool : Pool σ) : (depth : Nat) → Nat → Option String
  | 0, _ => none
  | depth + 1, id =>
    (pool.proxies[id]?.bind fun p => p.association.target?).map
      (Value.shownWith (pool.shownTarget depth))

/-- A value as messages show it, without loading anything. -/
def shown (pool : Pool σ) (v : Value) : String :=
  v.shownWith (pool.shownTarget (pool.proxies.length + 1))

end Pool

end LinkedDocs
