import LinkedDocs.Proofs.Evaluation
import LinkedDocs.Proofs.Sums

/-! How evaluating an expression on data fails.

    On data, an evaluation that fails should fail with a fault of the expression. Some things go
    another way. A positional parameter is counted from the end if it is negative, and one that is
    counted beyond the first value is a misuse of an index; the sum of a double and an integer that
    is out of the range of doubles is an overflow; and no text is made of an integer with too many
    digits. Each of these may happen inside an operand. A numeral with too many digits stops the
    reading of the expression. Nothing else goes wrong, since whatever is read off data and added up
    is data, a double, or what is known of a function or a class. -/

namespace LinkedDocs

open Scan
open Value (Entries)

namespace Value

/-! ### Data -/

def isText : Value → Bool
  | .text _ => true
  | _ => false

mutual

/-- Lists and mappings with texts as keys, down to leaves of a kind. -/
def isMadeOf (leaf : Value → Bool) : Value → Bool
  | .list xs => allMadeOf leaf xs
  | .map es => entriesMadeOf leaf es
  | v => leaf v
termination_by structural v => v

def allMadeOf (leaf : Value → Bool) : List Value → Bool
  | [] => true
  | x :: xs => x.isMadeOf leaf && allMadeOf leaf xs
termination_by structural xs => xs

def entriesMadeOf (leaf : Value → Bool) : List (Value × Value) → Bool
  | [] => true
  | (k, v) :: es => k.isText && v.isMadeOf leaf && entriesMadeOf leaf es
termination_by structural es => es

end

def isDataLeaf : Value → Bool
  | .null | .bool _ | .int _ | .text _ => true
  | _ => false

/-- Null, truth values, integers, texts, lists and mappings with texts as keys. -/
def isData (v : Value) : Bool := v.isMadeOf isDataLeaf

def isPlainLeaf : Value → Bool
  | .null | .bool _ | .int _ | .text _ | .float _ | .kind _ | .other _ => true
  | _ => false

/-- What is found from data: doubles, too, and what is known of functions and classes. -/
def isPlain (v : Value) : Bool := v.isMadeOf isPlainLeaf

section

variable {leaf leaf' : Value → Bool}

theorem allMadeOf_iff {xs : List Value} :
    allMadeOf leaf xs = true ↔ ∀ x ∈ xs, x.isMadeOf leaf = true := by
  induction xs with
  | nil => simp [allMadeOf]
  | cons x xs ih => rw [allMadeOf, Bool.and_eq_true, ih, List.forall_mem_cons]

theorem entriesMadeOf_iff {es : Entries} :
    entriesMadeOf leaf es = true ↔ ∀ e ∈ es, e.1.isText = true ∧ e.2.isMadeOf leaf = true := by
  induction es with
  | nil => simp [entriesMadeOf]
  | cons e es ih =>
    rw [entriesMadeOf, Bool.and_eq_true, Bool.and_eq_true, ih, List.forall_mem_cons]

mutual

theorem isMadeOf_mono (h : ∀ v, leaf v = true → leaf' v = true) (v : Value)
    (hv : v.isMadeOf leaf = true) : v.isMadeOf leaf' = true := by
  cases v with
  | list xs => exact allMadeOf_mono h xs hv
  | map es => exact entriesMadeOf_mono h es hv
  | _ => exact h _ hv
termination_by structural v

theorem allMadeOf_mono (h : ∀ v, leaf v = true → leaf' v = true) : ∀ xs : List Value,
    allMadeOf leaf xs = true → allMadeOf leaf' xs = true
  | [], _ => rfl
  | x :: xs, hxs => by
    rw [allMadeOf, Bool.and_eq_true] at hxs ⊢
    exact ⟨isMadeOf_mono h x hxs.1, allMadeOf_mono h xs hxs.2⟩
termination_by structural xs => xs

theorem entriesMadeOf_mono (h : ∀ v, leaf v = true → leaf' v = true) : ∀ es : Entries,
    entriesMadeOf leaf es = true → entriesMadeOf leaf' es = true
  | [], _ => rfl
  | (k, v) :: es, hes => by
    rw [entriesMadeOf, Bool.and_eq_true, Bool.and_eq_true] at hes ⊢
    exact ⟨⟨hes.1.1, isMadeOf_mono h v hes.1.2⟩, entriesMadeOf_mono h es hes.2⟩
termination_by structural es => es

end

end

theorem isPlain_of_isData {v : Value} (h : v.isData = true) : v.isPlain = true :=
  isMadeOf_mono (fun v hv => by cases v <;> first | rfl | contradiction) v h

/-! ### What is found from data -/

theorem isPlain_member {v x : Value} {name : String} (h : v.isPlain = true)
    (hx : Member.find? v name = some x) : x.isPlain = true := by
  unfold Member.find? at hx
  simp only at hx
  split at hx
  · cases hx
    rfl
  split at hx
  · -- The attributes as a mapping: no plain value keeps them in one.
    cases v <;> contradiction
  repeat' split at hx
  all_goals
    cases hx
    try rfl

theorem isPlain_ownAttribute {v x : Value} {name : String} (h : v.isPlain = true)
    (hx : v.ownAttribute? name = some x) : x.isPlain = true := by
  cases v with
  | bool | int =>
    simp only [ownAttribute?, wholePart?] at hx
    split at hx <;> cases hx <;> rfl
  | float | kind =>
    simp only [ownAttribute?] at hx
    split at hx <;> cases hx <;> rfl
  | _ => contradiction

theorem isPlain_attribute {v x : Value} {name : String} (h : v.isPlain = true)
    (hx : v.attribute? name = some x) : x.isPlain = true := by
  rcases attribute?_eq_some hx with hown | ⟨n, rfl⟩ | hmember
  · exact isPlain_ownAttribute h hown
  · rfl
  · exact isPlain_member h hmember

theorem not_isTime {v : Value} (h : v.isPlain = true) : v.isTime = false := by
  cases v <;> first | rfl | contradiction

theorem isPlain_add {v w x : Value} (hv : v.isPlain = true) (hw : w.isPlain = true)
    (hx : apply .add v w = .ok x) : x.isPlain = true := by
  cases sumOf_add hx with
  | int | float | text => rfl
  | list xs ys =>
    exact allMadeOf_iff.2 (List.forall_mem_append.2 ⟨allMadeOf_iff.1 hv, allMadeOf_iff.1 hw⟩)
  | tuple | bytes => contradiction
  | time h _ =>
    rw [not_isTime hv, not_isTime hw] at h
    simp at h

theorem isPassedOn_isPlain : Expr.IsPassedOn fun v => v.isPlain = true where
  literal h := by cases h <;> rfl
  entry {v es e} h hes he := by
    cases v with
    | map fs =>
      cases hes
      exact (entriesMadeOf_iff.1 h e he).2
    | _ => contradiction
  item {v x xs} h hxs hx := by
    cases v with
    | list ys =>
      cases hxs
      exact allMadeOf_iff.1 h x hx
    | _ => contradiction
  part := isPlain_attribute
  sum := isPlain_add

/-! ### Sums that are no sums -/

/-- One of two values is a double and the other an integer out of the range of doubles. -/
def Overflows (v w : Value) : Prop :=
  ∃ m n, v.numeric? = some m ∧ w.numeric? = some n ∧ OutOfRange m n

theorem apply_add_eq_error {v w : Value} (hv : v.isPlain = true) (hw : w.isPlain = true)
    {m : Misuse} (h : apply .add v w = .error m) : m = .type ∨ m = .overflow ∧ Overflows v w := by
  unfold apply at h
  split at h
  · contradiction
  · split at h
    · next a b ha hb =>
      by_cases hab : OutOfRange a b
      · rw [applyNumbers_outOfRange hab] at h
        cases h
        exact .inr ⟨rfl, a, b, ha, hb, hab⟩
      · rcases applyNumbers_add hab with ⟨k, hk⟩ | ⟨x, hx⟩
        · rw [hk] at h
          contradiction
        · rw [hx] at h
          contradiction
    · unfold applyOther at h
      simp only at h
      split at h
      · contradiction
      · rw [if_neg (by simp), applyTimes_of_not_isTime (not_isTime hv) (not_isTime hw)] at h
        cases h
        exact .inl rfl

theorem Overflows.apply_add {v w : Value} (h : Overflows v w) :
    apply .add v w = .error .overflow := by
  obtain ⟨m, n, hv, hw, hmn⟩ := h
  have hbools : ∀ a b, v = .bool a → w = .bool b → False := by
    rintro a b rfl rfl
    cases hv
    cases hw
    contradiction
  unfold apply
  split
  · exact (hbools _ _ rfl rfl).elim
  · rw [hv, hw]
    exact applyNumbers_outOfRange hmn

theorem text?_of_numeric? {v : Value} {n : Numeric} (h : v.numeric? = some n) :
    v.text? = none := by
  cases v <;> first | rfl | contradiction

end Value

namespace Expr

open Value (Overflows)

variable {b : Binding} {source : String} {e : Expr} {v w : Value} {f : Failure}

/-! ### Faults of single steps -/

theorem readProperty_error {name : String} (h : readProperty source v name = .error f) :
    ∃ fault, f = .expression fault := by
  unfold readProperty at h
  repeat' split at h
  all_goals
    cases h
    try exact ⟨_, rfl⟩

theorem readItem_error {key : Key} (h : readItem source v key = .error f) :
    ∃ fault, f = .expression fault := by
  unfold readItem at h
  repeat' split at h
  all_goals
    cases h
    try exact ⟨_, rfl⟩

theorem lookup_error {s : Scope} {name : String} (h : s.lookup name = .error f) :
    ∃ fault, f = .expression fault := by
  unfold Scope.lookup at h
  repeat' split at h
  all_goals
    cases h
    try exact ⟨_, rfl⟩

/-- A text is to be joined with a value that cannot be written, because of an integer in it. -/
def Unjoinable (v w : Value) : Prop :=
  (v.text?.isSome || w.text?.isSome) = true ∧ (v.isWritable = false ∨ w.isWritable = false)

/-- What two values have instead of a sum, if that is no fault. -/
inductive Mismatch (v w : Value) : Misuse → Prop
  | overflow (h : Overflows v w) : Mismatch v w .overflow
  | content (h : Unjoinable v w) : Mismatch v w .content

/-- A sum is misused only if it overflows or its text cannot be made. -/
theorem addValues_error (hv : v.isPlain = true) (hw : w.isPlain = true)
    (h : addValues source v w = .error f) :
    (∃ fault, f = .expression fault) ∨ ∃ m, f = .misuse m ∧ Mismatch v w m := by
  unfold addValues at h
  split at h
  · next text =>
    rcases joinTexts_cases v w with ⟨s, hs⟩ | ⟨hjoin, long⟩
    · rw [hs] at h
      cases h
    · rw [hjoin] at h
      cases h
      exact .inr ⟨_, rfl, .content ⟨text, long⟩⟩
  · split at h
    · contradiction
    · cases h
      exact .inl ⟨_, rfl⟩
    · next m hm hsum =>
      cases h
      obtain ⟨rfl, hover⟩ := (Value.apply_add_eq_error hv hw hsum).resolve_left hm
      exact .inr ⟨_, rfl, .overflow hover⟩

theorem addValues_of_overflows (h : Overflows v w) :
    addValues source v w = .error (.misuse .overflow) := by
  obtain ⟨a, b, ha, hb, -⟩ := id h
  rw [addValues, Value.text?_of_numeric? ha, Value.text?_of_numeric? hb, h.apply_add]
  rfl

theorem joinTexts_error (h : v.isWritable = false ∨ w.isWritable = false) :
    joinTexts v w = .error .content := by
  unfold joinTexts
  cases hv : operandText v with
  | error m =>
    obtain ⟨rfl, -⟩ := operandText_eq_error.1 hv
    rfl
  | ok s =>
    have written : v.isWritable = true := by
      refine Bool.not_eq_false _ ▸ fun long => ?_
      rw [operandText_eq_error.2 ⟨rfl, long⟩] at hv
      cases hv
    rw [written] at h
    rw [operandText_eq_error.2 ⟨rfl, h.resolve_left (by simp)⟩]
    rfl

theorem Mismatch.addValues {m : Misuse} (h : Mismatch v w m) :
    addValues source v w = .error (.misuse m) := by
  cases h with
  | overflow h => exact addValues_of_overflows h
  | content h =>
    rw [Expr.addValues, if_pos h.1, joinTexts_error h.2]
    rfl

/-! ### Positional parameters -/

section

variable {es : Entries} {i : Int} {j : Nat}

theorem parameter_eq_value (h : b.source.entries? = some es) (hj : j < es.length) :
    b.parameter j = .ok es[j].2 := by
  have hbound : ¬ (j : Int) ≥ es.length := by omega
  have hsign : ¬ (j : Int) < 0 := by omega
  rw [Binding.parameter, h]
  simp only [hbound, hsign, if_false, Int.toNat_natCast, List.getElem?_eq_getElem hj]

/-- A negative parameter counts from the end. -/
theorem parameter_fromEnd (h : b.source.entries? = some es) (hj : j < es.length) :
    b.parameter (j - es.length) = .ok es[j].2 := by
  have hbound : ¬ (j : Int) - es.length ≥ es.length := by omega
  have hsign : (j : Int) - es.length < 0 := by omega
  have hplace : (j : Int) - es.length + es.length = j := by omega
  have hback : ¬ (j : Int) < 0 := by omega
  rw [Binding.parameter, h]
  simp only [hbound, hsign, hplace, hback, if_false, if_true, Int.toNat_natCast,
    List.getElem?_eq_getElem hj]

theorem parameter_beyond (h : b.source.entries? = some es) (hi : (es.length : Int) ≤ i) :
    b.parameter i = .error (.expression (.noParameter i es.length)) := by
  rw [Binding.parameter, h]
  exact if_pos hi

/-- Before the first value there is nothing, and that is a misuse. -/
theorem parameter_before (h : b.source.entries? = some es) (hi : i + es.length < 0) :
    b.parameter i = .error (.misuse .index) := by
  have hbound : ¬ i ≥ es.length := by omega
  have hsign : i < 0 := by omega
  rw [Binding.parameter, h]
  simp only [hbound, hsign, hi, if_false, if_true]

theorem parameter_error (hf : b.parameter i = .error f) :
    (∃ fault, f = .expression fault) ∨
      f = .misuse .index ∧ ∃ es, b.source.entries? = some es ∧ i + es.length < 0 := by
  cases h : b.source.entries? with
  | none =>
    rw [Binding.parameter, h] at hf
    contradiction
  | some es =>
    by_cases hbefore : i + es.length < 0
    · rw [parameter_before h hbefore] at hf
      cases hf
      exact .inr ⟨rfl, es, rfl, hbefore⟩
    by_cases hbeyond : (es.length : Int) ≤ i
    · rw [parameter_beyond h hbeyond] at hf
      cases hf
      exact .inl ⟨_, rfl⟩
    -- What is left is a value, counted from the end or from the start.
    by_cases hneg : i < 0
    · obtain ⟨j, hj⟩ := Int.eq_ofNat_of_zero_le (Int.not_lt.1 hbefore)
      obtain rfl : i = j - es.length := by omega
      rw [parameter_fromEnd h (by omega)] at hf
      contradiction
    · obtain ⟨j, rfl⟩ := Int.eq_ofNat_of_zero_le (Int.not_lt.1 hneg)
      rw [parameter_eq_value h (by omega)] at hf
      contradiction

end

/-! ### Whole expressions -/

/-- An evaluation that goes wrong: at a positional parameter before the first value, at a sum that
    overflows or whose text cannot be made, or in a part that is evaluated first. -/
inductive Derails (b : Binding) (source : String) : Expr → Misuse → Prop
  | parameter {es : Entries} {i : Int} (h : b.source.entries? = some es)
    (hi : i + es.length < 0) : Derails b source (.parameter i) .index
  | sum {l r : Expr} {v w : Value} {m : Misuse} (hl : l.value b source = .ok v)
    (hr : r.value b source = .ok w) (h : Mismatch v w m) : Derails b source (.add l r) m
  | property {e : Expr} {m : Misuse} (h : Derails b source e m) (name : String) :
    Derails b source (.property e name) m
  | index {e : Expr} {m : Misuse} (h : Derails b source e m) (key : Key) :
    Derails b source (.index e key) m
  | left {l : Expr} {m : Misuse} (h : Derails b source l m) (r : Expr) :
    Derails b source (.add l r) m
  | right {l r : Expr} {v : Value} {m : Misuse} (hl : l.value b source = .ok v)
    (h : Derails b source r m) : Derails b source (.add l r) m

theorem Derails.value_eq {m : Misuse} (h : Derails b source e m) :
    e.value b source = .error (.misuse m) := by
  induction h with
  | parameter h hi => exact parameter_before h hi
  | sum hl hr h => exact bind_eq_error.2 (.inr ⟨_, hl, bind_eq_error.2 (.inr ⟨_, hr,
      h.addValues⟩)⟩)
  | property _ _ ih | index _ _ ih | left _ _ ih => exact bind_eq_error.2 (.inl ih)
  | right hl _ ih => exact bind_eq_error.2 (.inr ⟨_, hl, bind_eq_error.2 (.inl ih)⟩)

/-- Every other failure is a fault of the expression. Induction on the expression. -/
theorem value_error (hb : b.Holds fun v => v.isPlain = true) (he : e.IsWritten)
    (h : e.value b source = .error f) :
    (∃ fault, f = .expression fault) ∨ ∃ m, f = .misuse m ∧ Derails b source e m := by
  have plain {e : Expr} (he : e.IsWritten) {v : Value} (hv : e.value b source = .ok v) :
      v.isPlain = true := Value.isPassedOn_isPlain.value hb he v hv
  induction he generalizing f with
  | literal => contradiction
  | «variable» name => exact .inl (lookup_error h)
  | root name => exact .inl (readProperty_error h)
  | parameter i =>
    refine (parameter_error h).imp_right ?_
    rintro ⟨rfl, es, hes, hi⟩
    exact ⟨_, rfl, .parameter hes hi⟩
  | property _ name ih =>
    rcases bind_eq_error.1 h with h | ⟨v, -, h⟩
    · refine (ih h).imp_right ?_
      rintro ⟨m, hm, hd⟩
      exact ⟨m, hm, hd.property name⟩
    · exact .inl (readProperty_error h)
  | index _ key ih =>
    rcases bind_eq_error.1 h with h | ⟨v, -, h⟩
    · refine (ih h).imp_right ?_
      rintro ⟨m, hm, hd⟩
      exact ⟨m, hm, hd.index key⟩
    · exact .inl (readItem_error h)
  | @add l r hl hr ihl ihr =>
    rcases bind_eq_error.1 h with h | ⟨v, hv, h⟩
    · refine (ihl h).imp_right ?_
      rintro ⟨m, hm, hd⟩
      exact ⟨m, hm, hd.left r⟩
    rcases bind_eq_error.1 h with h | ⟨w, hw, h⟩
    · refine (ihr h).imp_right ?_
      rintro ⟨m, hm, hd⟩
      exact ⟨m, hm, .right hv hd⟩
    · refine (addValues_error (plain hl hv) (plain hr hw) h).imp_right ?_
      rintro ⟨m, hm, mismatch⟩
      exact ⟨m, hm, .sum hv hw mismatch⟩

end Expr

namespace Property

/-- Evaluating a text on data gives a value or a fault of the expression exactly if nothing that it
    spells derails and it is not stopped at a numeral that is too long, and either of these is a
    misuse. In particular the positional parameters of a mapping
    are its values in order, and again its values where they are counted from the end by negative
    numbers; a parameter behind the last value is a fault, and one before the first a misuse. -/
theorem evaluation_faults_unless_derailed (p : Property) {d : Value} (hd : d.isData = true)
    {memory : Binding.Memory} (hm : (p.binding d).Coherent memory) (text : String) :
    (((∃ v, ((p.binding d).evaluate text).outcome memory = .ok v) ∨
        ∃ fault, ((p.binding d).evaluate text).outcome memory = .error (.expression fault)) ↔
      ¬ (∃ e m, Expr.parse text = .ok e ∧ Expr.Derails (p.binding d) text e m) ∧
        Expr.parse text ≠ .error (.misuse .content)) ∧
    (∀ e m, Expr.parse text = .ok e → Expr.Derails (p.binding d) text e m →
      ((p.binding d).evaluate text).outcome memory = .error (.misuse m)) ∧
    (Expr.parse text = .error (.misuse .content) → HasOverlong text.toList ∧
      Expr.Token.tokens text = .error (.misuse .content) ∧
      ((p.binding d).evaluate text).outcome memory = .error (.misuse .content)) ∧
    ∀ es n, d = .map es → Expr.parse text = .ok (.parameter n) →
      (∀ j (hj : j < es.length), n = j ∨ n = (j : Int) - es.length →
        ((p.binding d).evaluate text).outcome memory = .ok es[j].2) ∧
      ((es.length : Int) ≤ n → ((p.binding d).evaluate text).outcome memory
        = .error (.expression (.noParameter n es.length))) ∧
      (n + es.length < 0 →
        ((p.binding d).evaluate text).outcome memory = .error (.misuse .index)) := by
  rw [Binding.outcome_evaluate hm]
  have derailed (e : Expr) (m : Misuse) (he : Expr.parse text = .ok e)
      (h : Expr.Derails (p.binding d) text e m) :
      Expr.parse text >>= Expr.value (p.binding d) text = .error (.misuse m) := by
    rw [he]
    exact h.value_eq
  have stopped (h : Expr.parse text = .error (.misuse .content)) :
      Expr.parse text >>= Expr.value (p.binding d) text = .error (.misuse .content) := by
    rw [h]
    rfl
  refine ⟨⟨?_, ?_⟩, derailed, ?_, ?_⟩
  · refine fun h => ⟨?_, fun long => ?_⟩
    · rintro ⟨e, m, he, hderails⟩
      rw [derailed e m he hderails] at h
      simp at h
    · rw [stopped long] at h
      simp at h
  · rintro ⟨h, long⟩
    rcases Expr.parse_cases text with ⟨e, he⟩ | ⟨fault, hfault⟩ | ⟨hstop, -⟩
    · rw [he] at h ⊢
      change (∃ v, e.value (p.binding d) text = .ok v) ∨ _
      cases hv : e.value (p.binding d) text with
      | ok v => exact .inl ⟨v, rfl⟩
      | error f =>
        have plain : (p.binding d).Holds fun v => v.isPlain = true :=
          p.holds_binding (Value.isPlain_of_isData hd)
        rcases Expr.value_error plain (Expr.isWritten_of_parse he) hv with ⟨fault, rfl⟩ | ⟨m, -, hm⟩
        · exact .inr ⟨fault, hv⟩
        · exact absurd ⟨e, m, rfl, hm⟩ h
    · rw [hfault]
      exact .inr ⟨fault, rfl⟩
    · exact absurd hstop long
  · intro h
    rcases Expr.parse_cases text with ⟨e, he⟩ | ⟨fault, hfault⟩ | ⟨-, tokens, long⟩
    · cases he.symm.trans h
    · cases hfault.symm.trans h
    · exact ⟨long, tokens, stopped h⟩
  · intro es n hes hn
    subst hes
    rw [hn]
    change (∀ j (hj : j < es.length), _ → (p.binding (.map es)).parameter n = _) ∧
      (_ → (p.binding (.map es)).parameter n = _) ∧ (_ → (p.binding (.map es)).parameter n = _)
    refine ⟨?_, Expr.parameter_beyond rfl, Expr.parameter_before rfl⟩
    rintro j hj (rfl | rfl)
    · exact Expr.parameter_eq_value rfl hj
    · exact Expr.parameter_fromEnd rfl hj

end Property

namespace Positional

def publisher : Property :=
  ⟨"publisher", "publisher", .mapping none, "publisher", false, false, .pointer none⟩

/-- A reference with one value. -/
def reference : Value := .map [(.text "a", .int 1)]

theorem parse_beforeFirst : Expr.parse "[-2]" = .ok (.parameter (-2)) := by rfl

theorem parse_last : Expr.parse "[-1]" = .ok (.parameter (-1)) := by rfl

theorem derails_beforeFirst (source : String) :
    Expr.Derails (publisher.binding reference) source (.parameter (-2)) .index :=
  .parameter rfl (by decide)

theorem evaluate_beforeFirst : reference.isData = true ∧
    ((publisher.binding reference).evaluate "[-2]").outcome .fresh = .error (.misuse .index) ∧
    ((publisher.binding reference).evaluate "[-1]").outcome .fresh = .ok (.int 1) := by
  have coherent := (publisher.binding reference).coherent_fresh
  obtain ⟨-, derailed, -, -⟩ := publisher.evaluation_faults_unless_derailed (d := reference) rfl
    coherent "[-2]"
  obtain ⟨-, -, -, parameters⟩ := publisher.evaluation_faults_unless_derailed (d := reference) rfl
    coherent "[-1]"
  refine ⟨rfl, derailed _ _ parse_beforeFirst (derails_beforeFirst _), ?_⟩
  exact (parameters _ _ rfl parse_last).1 0 (by decide) (.inr rfl)

/-- So not every failed evaluation on data is a fault of the expression. -/
theorem evaluation_is_misused : ¬ ∀ (p : Property) (d : Value) (text : String), d.isData = true →
    (∃ v, ((p.binding d).evaluate text).outcome .fresh = .ok v) ∨
      ∃ fault, ((p.binding d).evaluate text).outcome .fresh = .error (.expression fault) := by
  intro h
  have hout : ((publisher.binding reference).evaluate "[-2]").outcome .fresh
      = .error (.misuse .index) := by
    rw [Binding.outcome_evaluate (Binding.coherent_fresh _), parse_beforeFirst]
    exact (derails_beforeFirst "[-2]").value_eq
  have hcontract := h publisher reference "[-2]" rfl
  rw [hout] at hcontract
  rcases hcontract with ⟨v, hv⟩ | ⟨fault, hfault⟩
  · cases hv
  · cases hfault

end Positional

end LinkedDocs
