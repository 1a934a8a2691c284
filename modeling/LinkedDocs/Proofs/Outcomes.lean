import LinkedDocs.Run

/-! What a computation gives.

    A computation that may fail gives a property if every value it succeeds with has it, and one
    over a state if besides, from a state with an invariant, it leaves a state with the invariant. A
    sequence gives what its last part gives of the values of the first. Two sequences do the same,
    faults of the languages apart, if their parts do. A computation amounts to an outcome if it
    comes to just that one from every state with the invariant, and then it is steady. -/

namespace LinkedDocs

variable {α β : Type}

/-- A sequence fails in its first part, or in the rest after that. -/
theorem bind_eq_error {x : Except Failure α} {f : α → Except Failure β} {e : Failure} :
    (x >>= f) = .error e ↔ x = .error e ∨ ∃ a, x = .ok a ∧ f a = .error e := by
  cases x <;> simp [bind, Except.bind]

/-- A sequence that succeeds is made of parts that do. -/
theorem bind_eq_ok {x : Except Failure α} {f : α → Except Failure β} {b : β} :
    (x >>= f) = .ok b ↔ ∃ a, x = .ok a ∧ f a = .ok b := by
  cases x <;> simp [bind, Except.bind]

/-- If there is a value, it has the property. -/
def Gives (x : Except Failure α) (P : α → Prop) : Prop := ∀ a, x = .ok a → P a

namespace Gives

variable {P : α → Prop} {Q : β → Prop}

theorem ok {a : α} (h : P a) : Gives (.ok a) P := by
  intro b hb
  cases hb
  exact h

theorem error (e : Failure) : Gives (.error e) P := by
  intro a ha
  contradiction

theorem mono {P' : α → Prop} {x : Except Failure α} (h : Gives x P) (hP : ∀ a, P a → P' a) :
    Gives x P' := by
  intro a ha
  exact hP a (h a ha)

theorem bind {x : Except Failure α} {f : α → Except Failure β} (h : Gives x P)
    (hf : ∀ a, P a → Gives (f a) Q) : Gives (x >>= f) Q := by
  cases x with
  | error e => exact error e
  | ok a => exact hf a (h a rfl)

/-- Whatever the first part gives. -/
theorem seq {x : Except Failure α} {f : α → Except Failure β} (hf : ∀ a, Gives (f a) Q) :
    Gives (x >>= f) Q :=
  bind (P := fun _ => True) (fun _ _ => trivial) fun a _ => hf a

end Gives

namespace Run

variable {σ : Type}

/-- The invariant is kept, and if there is a value, it has the property. -/
def Gives (I : σ → Prop) (x : Run σ α) (P : α → Prop) : Prop :=
  ∀ s, I s → I (x.exec s).2 ∧ LinkedDocs.Gives (x.exec s).1 P

namespace Gives

variable {I : σ → Prop} {P : α → Prop} {Q : β → Prop}

theorem pure {a : α} (h : P a) : Gives I (pure a : Run σ α) P := fun _ hs => ⟨hs, .ok h⟩

theorem lift {x : Except Failure α} (h : LinkedDocs.Gives x P) : Gives I (lift x : Run σ α) P :=
  fun _ hs => ⟨hs, h⟩

theorem value (x : Except Misuse α) : Gives I (Run.value x) fun _ => True :=
  lift fun _ _ => trivial

theorem bind {x : Run σ α} {f : α → Run σ β} (h : Gives I x P)
    (hf : ∀ a, P a → Gives I (f a) Q) : Gives I (x >>= f) Q := by
  intro s hs
  obtain ⟨hI, hP⟩ := h s hs
  rw [exec_bind]
  match hx : x.exec s with
  | (.ok a, mid) =>
    rw [hx] at hI hP
    exact hf a (hP a rfl) mid hI
  | (.error e, mid) =>
    rw [hx] at hI
    exact ⟨hI, .error e⟩

/-- Whatever the first part gives, if it leaves the state alone. -/
theorem lift_seq {x : Except Failure α} {f : α → Run σ β} (hf : ∀ a, Gives I (f a) Q) :
    Gives I (Run.lift x >>= f) Q :=
  (lift (P := fun _ => True) fun _ _ => trivial).bind fun a _ => hf a

theorem mono {P' : α → Prop} {x : Run σ α} (h : Gives I x P) (hP : ∀ a, P a → P' a) :
    Gives I x P' := by
  intro s hs
  obtain ⟨hI, hx⟩ := h s hs
  exact ⟨hI, hx.mono hP⟩

theorem outcome {x : Run σ α} {s : σ} (h : Gives I x P) (hs : I s) :
    LinkedDocs.Gives (x.outcome s) P := (h s hs).2

end Gives

end Run

/-! ### One outcome -/

namespace Run

variable {σ : Type}

theorem exec_bind_of_ok {x : Run σ α} {f : α → Run σ β} {s : σ} {a : α} (h : x.outcome s = .ok a) :
    (x >>= f).exec s = (f a).exec (x.exec s).2 := by
  rw [exec_bind]
  match hx : x.exec s with
  | (.ok a', mid) =>
    rw [outcome, hx] at h
    cases h
    rfl
  | (.error e, mid) =>
    rw [outcome, hx] at h
    contradiction

theorem exec_bind_of_error {x : Run σ α} {f : α → Run σ β} {s : σ} {e : Failure}
    (h : x.outcome s = .error e) : (x >>= f).exec s = (.error e, (x.exec s).2) := by
  rw [exec_bind]
  match hx : x.exec s with
  | (.ok a, mid) =>
    rw [outcome, hx] at h
    contradiction
  | (.error e', mid) =>
    rw [outcome, hx] at h
    cases h
    rfl

/-- Where the invariant holds, it is kept, and there is always this outcome. -/
def AmountsTo (I : σ → Prop) (x : Run σ α) (r : Except Failure α) : Prop :=
  ∀ s, I s → ∃ s', I s' ∧ x.exec s = (r, s')

namespace AmountsTo

variable {I : σ → Prop} {x : Run σ α} {r : Except Failure α} {s : σ}

theorem pure (a : α) : AmountsTo I (pure a : Run σ α) (.ok a) := fun s hs => ⟨s, hs, rfl⟩

theorem lift (r : Except Failure α) : AmountsTo I (Run.lift r) r := fun s hs => ⟨s, hs, rfl⟩

theorem bind {f : α → Run σ β} {g : α → Except Failure β} (hx : AmountsTo I x r)
    (hf : ∀ a, AmountsTo I (f a) (g a)) : AmountsTo I (x >>= f) (r >>= g) := by
  intro s hs
  obtain ⟨s', hs', hrun⟩ := hx s hs
  rw [exec_bind, hrun]
  cases r with
  | error e => exact ⟨s', hs', rfl⟩
  | ok a => exact hf a s' hs'

theorem outcome (h : AmountsTo I x r) (hs : I s) : x.outcome s = r := by
  obtain ⟨s', -, hrun⟩ := h s hs
  rw [Run.outcome, hrun]

end AmountsTo

/-- Where the invariant holds, it is kept, and the outcome does not depend on the state. -/
def Steady (I : σ → Prop) (x : Run σ α) : Prop := ∃ r, AmountsTo I x r

namespace Steady

variable {I : σ → Prop} {x : Run σ α}

theorem pure (a : α) : Steady I (pure a : Run σ α) := ⟨_, .pure a⟩

theorem lift (r : Except Failure α) : Steady I (Run.lift r) := ⟨_, .lift r⟩

theorem bind {f : α → Run σ β} (hx : Steady I x) (hf : ∀ a, Steady I (f a)) :
    Steady I (x >>= f) := by
  obtain ⟨r, hr⟩ := hx
  exact ⟨_, hr.bind fun a => (hf a).choose_spec⟩

theorem gives (h : Steady I x) : Gives I x fun _ => True := by
  intro s hs
  obtain ⟨r, hr⟩ := h
  obtain ⟨s', hs', hrun⟩ := hr s hs
  rw [hrun]
  exact ⟨hs', fun _ _ => trivial⟩

/-- It amounts to its outcome from any of the states. -/
theorem amountsTo (h : Steady I x) {s : σ} (hs : I s) : AmountsTo I x (x.outcome s) := by
  obtain ⟨r, hr⟩ := h
  rw [hr.outcome hs]
  exact hr

end Steady

end Run

/-! ### The same effect -/

namespace Run

variable {σ : Type} {I : σ → Prop} {x y : Run σ α}

/-- Where the invariant holds, both computations have one outcome and leave one state. -/
def Agree (I : σ → Prop) (x y : Run σ α) : Prop := ∀ s, I s → x.exec s = y.exec s

theorem Agree.front (h : Agree I x y) (f : α → Run σ β) : Agree I (x >>= f) (y >>= f) := by
  intro s hs
  rw [exec_bind, exec_bind, h s hs]

theorem Agree.behind {f g : α → Run σ β} (hx : Steady I x) (hf : ∀ a, Agree I (f a) (g a)) :
    Agree I (x >>= f) (x >>= g) := by
  intro s hs
  have kept := (hx.gives s hs).1
  rw [exec_bind, exec_bind]
  match hrun : x.exec s with
  | (.ok a, s') =>
    rw [hrun] at kept
    exact hf a s' kept
  | (.error e, s') => rfl

/-- From some state there is a value. -/
def Succeeds (x : Run σ α) : Prop := ∃ s a s', x.exec s = (.ok a, s')

theorem Succeeds.of_bind {x : Run σ α} {f : α → Run σ β} (h : Succeeds (x >>= f)) :
    Succeeds x ∧ ∃ a, Succeeds (f a) := by
  obtain ⟨s, b, s', hrun⟩ := h
  obtain ⟨a, mid, hx, hf⟩ := exec_bind_ok hrun
  exact ⟨⟨s, a, mid, hx⟩, a, mid, b, s', hf⟩

theorem Succeeds.of_lift {x : Except Failure α} (h : Succeeds (Run.lift x : Run σ α)) :
    ∃ a, x = .ok a := by
  obtain ⟨s, a, s', hrun⟩ := h
  exact ⟨a, congrArg Prod.fst hrun⟩

end Run

/-! ### The same outcome -/

/-- A template or an expression cannot be evaluated. -/
def Faults {α : Type} (x : Except Failure α) : Prop := ∃ f, x = .error (.expression f)

/-- The same outcome, or a fault of the languages in both. -/
def SameOrFaults {α : Type} (x y : Except Failure α) : Prop := x = y ∨ Faults x ∧ Faults y

namespace Run

variable {σ α β : Type} {I : σ → Prop}

/-- Where the invariant holds, both computations do the same, or a fault of the languages ends
    both. -/
def SameOrFaults (I : σ → Prop) (x y : Run σ α) : Prop :=
  ∀ s, I s → x.exec s = y.exec s ∨ Faults (x.outcome s) ∧ Faults (y.outcome s)

namespace SameOrFaults

theorem bind {x y : Run σ α} {f g : α → Run σ β} (h : SameOrFaults I x y)
    (hx : Run.Gives I x fun _ => True) (hf : ∀ a, SameOrFaults I (f a) (g a)) :
    SameOrFaults I (x >>= f) (y >>= g) := by
  intro s hs
  have faulty {z : Run σ α} {k : α → Run σ β} (hz : Faults (z.outcome s)) :
      Faults ((z >>= k).outcome s) := by
    obtain ⟨e, he⟩ := hz
    rw [outcome] at he
    match hrun : z.exec s with
    | (r, s') =>
      rw [hrun] at he
      cases he
      exact ⟨e, by rw [outcome, exec_bind, hrun]⟩
  rcases h s hs with same | ⟨hx, hy⟩
  · have kept := (hx s hs).1
    rw [outcome, outcome, exec_bind, exec_bind, ← same]
    match hrun : x.exec s with
    | (.ok a, s') =>
      rw [hrun] at kept
      exact hf a s' kept
    | (.error e, s') => exact .inl rfl
  · exact .inr ⟨faulty hx, faulty hy⟩

theorem outcome {x y : Run σ α} (h : SameOrFaults I x y) {s : σ} (hs : I s) :
    LinkedDocs.SameOrFaults (x.outcome s) (y.outcome s) :=
  (h s hs).imp_left (congrArg Prod.fst)

end SameOrFaults

end Run

end LinkedDocs
