import LinkedDocs.Value.Operator

/-! Adding values up.

    Two numbers have a sum unless one of them is a double and the other an integer that no double
    comes near. Lists, tuples, byte strings and texts are joined, moments and lengths of time are
    shifted, and no other two values have a sum. -/

namespace LinkedDocs.Value

open Number

/-- One of two numbers is a double and the other an integer out of the range of doubles. -/
inductive OutOfRange : Numeric → Numeric → Prop
  | left {n : Int} (h : Binary64.ofInt? n = none) (x : Float) : OutOfRange (.whole n) (.real x)
  | right (x : Float) {n : Int} (h : Binary64.ofInt? n = none) : OutOfRange (.real x) (.whole n)

theorem applyNumbers_outOfRange {m n : Numeric} (h : OutOfRange m n) :
    applyNumbers .add m n = .error .overflow := by
  cases h with
  | left h x => simp [applyNumbers, toReal, h, bind, Except.bind]
  | right x h => simp [applyNumbers, toReal, h, bind, Except.bind]

/-- Other numbers have a sum. -/
theorem applyNumbers_add {m n : Numeric} (h : ¬ OutOfRange m n) :
    (∃ k, applyNumbers .add m n = .ok (.int k)) ∨ ∃ x, applyNumbers .add m n = .ok (.float x) := by
  cases m with
  | whole a =>
    cases n with
    | whole b => exact .inl ⟨_, rfl⟩
    | real y =>
      cases ha : Binary64.ofInt? a with
      | none => exact absurd (.left ha y) h
      | some x => simp [applyNumbers, toReal, ha, bind, Except.bind, applyReals]
  | real x =>
    cases n with
    | whole b =>
      cases hb : Binary64.ofInt? b with
      | none => exact absurd (.right x hb) h
      | some y => simp [applyNumbers, toReal, hb, bind, Except.bind, applyReals]
    | real y => exact .inr ⟨_, rfl⟩

/-- A moment or a length of time. -/
def isTime : Value → Bool
  | .moment _ | .duration _ => true
  | _ => false

theorem applyTimes_add {v w x : Value} (hx : applyTimes .add v w = .ok x) : x.isTime = true := by
  have shifted {m : Moment} {micros : Int} (h : shift m micros = .ok x) : x.isTime = true := by
    unfold shift at h
    split at h <;> cases h
    rfl
  have lasting {micros : Int} (h : asDuration micros = .ok x) : x.isTime = true := by
    unfold asDuration at h
    split at h <;> cases h
    rfl
  unfold applyTimes at hx
  split at hx
  · simp at hx
  · exact shifted hx
  · exact shifted hx
  · exact lasting hx
  · split at hx <;> cases hx
  · split at hx <;> cases hx
  · cases hx

/-- Values that are no time have no sum of this kind. -/
theorem applyTimes_of_not_isTime {v w : Value} (hv : v.isTime = false) (hw : w.isTime = false) :
    applyTimes .add v w = .error .type := by
  unfold applyTimes
  split <;> first | contradiction | rfl

/-- What adding up gives. -/
inductive SumOf : Value → Value → Value → Prop
  | int (v w : Value) (n : Int) : SumOf v w (.int n)
  | float (v w : Value) (x : Float) : SumOf v w (.float x)
  | text (v w : Value) (s : String) : SumOf v w (.text s)
  | list (xs ys : List Value) : SumOf (.list xs) (.list ys) (.list (xs ++ ys))
  | tuple (xs ys : List Value) : SumOf (.tuple xs) (.tuple ys) (.tuple (xs ++ ys))
  | bytes (s t : Option Nat) (xs ys : List UInt8) :
    SumOf (.bytes s xs) (.bytes t ys) (.bytes none (xs ++ ys))
  | time {v w x : Value} (h : v.isTime = true ∨ w.isTime = true) (hx : x.isTime = true) : SumOf v w x

theorem sumOf_numbers {v w x : Value} {m n : Numeric} (hx : applyNumbers .add m n = .ok x) :
    SumOf v w x := by
  by_cases h : OutOfRange m n
  · rw [applyNumbers_outOfRange h] at hx
    contradiction
  · rcases applyNumbers_add h with ⟨k, hk⟩ | ⟨y, hy⟩
    · obtain rfl := Except.ok.inj (hx.symm.trans hk)
      exact .int v w k
    · obtain rfl := Except.ok.inj (hx.symm.trans hy)
      exact .float v w y

theorem sumOf_join {v w x : Value} (hx : join? v w = some x) : SumOf v w x := by
  unfold join? at hx
  split at hx
  · cases hx
    exact .list _ _
  · cases hx
    exact .tuple _ _
  · cases hx
    exact .bytes _ _ _ _
  · split at hx <;> cases hx
    exact .text _ _ _

theorem sumOf_add {v w x : Value} (hx : apply .add v w = .ok x) : SumOf v w x := by
  unfold apply at hx
  split at hx
  · cases hx
    exact .int _ _ _
  · split at hx
    · exact sumOf_numbers hx
    · unfold applyOther at hx
      simp only at hx
      split at hx
      · next hj =>
        cases hx
        exact sumOf_join hj
      · have ht : applyTimes .add v w = .ok x := by simpa using hx
        cases hv : v.isTime with
        | true => exact .time (.inl hv) (applyTimes_add ht)
        | false =>
          cases hw : w.isTime with
          | true => exact .time (.inr hw) (applyTimes_add ht)
          | false =>
            rw [applyTimes_of_not_isTime hv hw] at ht
            contradiction

end LinkedDocs.Value
