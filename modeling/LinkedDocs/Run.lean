import LinkedDocs.Failure

/-! Computations that may fail and that keep their state when they do. -/

namespace LinkedDocs

/-- A computation over a state; what it did to the state stands even if it fails. -/
abbrev Run (σ α : Type) := ExceptT Failure (StateM σ) α

namespace Run

variable {σ α : Type}

/-- The outcome and the state after it. -/
def exec (x : Run σ α) (s : σ) : Except Failure α × σ := (ExceptT.run x).run s

/-- The outcome alone. -/
def outcome (x : Run σ α) (s : σ) : Except Failure α := (x.exec s).1

/-- The computation with the given effect. -/
def of (f : σ → Except Failure α × σ) : Run σ α := ExceptT.mk (fun s => f s)

def lift (x : Except Failure α) : Run σ α := ExceptT.mk (pure x)

/-- A misuse of values is a failure of the computation. -/
def value (x : Except Misuse α) : Run σ α := lift (x.mapError .misuse)

/-- The outcome of a computation as a value: its failure is none of the whole. -/
def attempt (x : Run σ α) : Run σ (Except Failure α) := of fun s => (.ok (x.exec s).1, (x.exec s).2)

@[simp] theorem exec_of (f : σ → Except Failure α × σ) (s : σ) : (of f).exec s = f s := rfl

@[simp] theorem exec_lift (x : Except Failure α) (s : σ) : (lift x).exec s = (x, s) := rfl

@[simp] theorem exec_attempt (x : Run σ α) (s : σ) :
    x.attempt.exec s = (.ok (x.exec s).1, (x.exec s).2) := rfl

@[simp] theorem exec_pure (a : α) (s : σ) : (pure a : Run σ α).exec s = (.ok a, s) := rfl

@[simp] theorem exec_get (s : σ) : (get : Run σ σ).exec s = (.ok s, s) := rfl

theorem exec_bind {β : Type} (x : Run σ α) (f : α → Run σ β) (s : σ) :
    (x >>= f).exec s =
      match x.exec s with
      | (.ok a, s) => (f a).exec s
      | (.error e, s) => (.error e, s) := by
  simp only [exec, ExceptT.run_bind, StateT.run_bind]
  show (do let p ← ((ExceptT.run x).run s : Id _); _) = _
  rcases h : (ExceptT.run x).run s with ⟨r, s'⟩
  cases r <;> rfl

theorem exec_pure_ok {a b : α} {s s' : σ} (h : (pure a : Run σ α).exec s = (.ok b, s')) :
    a = b ∧ s = s' := by
  obtain ⟨hab, hs⟩ := Prod.mk.inj h
  exact ⟨Except.ok.inj hab, hs⟩

/-- A sequence that succeeds is made of parts that do. -/
theorem exec_bind_ok {β : Type} {x : Run σ α} {f : α → Run σ β} {s s' : σ} {b : β}
    (h : (x >>= f).exec s = (.ok b, s')) :
    ∃ a mid, x.exec s = (.ok a, mid) ∧ (f a).exec mid = (.ok b, s') := by
  rw [exec_bind] at h
  match hx : x.exec s with
  | (.ok a, mid) =>
    rw [hx] at h
    exact ⟨a, mid, rfl, h⟩
  | (.error e, mid) =>
    rw [hx] at h
    nomatch congrArg Prod.fst h

/-- A sequence fails in its first part, or in the rest after that. -/
theorem exec_bind_error {β : Type} {x : Run σ α} {f : α → Run σ β} {s s' : σ} {e : Failure}
    (h : (x >>= f).exec s = (.error e, s')) :
    x.exec s = (.error e, s') ∨
      ∃ a mid, x.exec s = (.ok a, mid) ∧ (f a).exec mid = (.error e, s') := by
  rw [exec_bind] at h
  match hx : x.exec s with
  | (.ok a, mid) =>
    rw [hx] at h
    exact .inr ⟨a, mid, rfl, h⟩
  | (.error e', mid) =>
    rw [hx] at h
    obtain ⟨he, rfl⟩ := Prod.mk.inj h
    obtain rfl := Except.error.inj he
    exact .inl rfl

end Run

end LinkedDocs
