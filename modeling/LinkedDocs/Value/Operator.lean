import LinkedDocs.Number.Bits
import LinkedDocs.Value.Collection
import LinkedDocs.Value.Formatting

/-! Arithmetic on values.

    Integers are unbounded and truth values count as integers; an integer next to a double becomes
    one, and division of integers is exact before it is rounded. Texts, lists, tuples and byte
    strings are joined by addition and repeated by multiplication, and the remainder of a text is
    the text with values put into it; mappings are merged, sets combined. Moments and lengths of
    time are shifted and scaled. Every other combination is a misuse. -/

namespace LinkedDocs.Value

open Number

/-- The binary operators. -/
inductive Operator where
  | add | sub | mul | div | floorDiv | mod | pow | and | or | xor
  deriving DecidableEq, Repr

/-- A number as a double; integers out of range overflow. -/
def toReal : Numeric → Except Misuse Float
  | .real x => .ok x
  | .whole n => match Binary64.ofInt? n with
    | some x => .ok x
    | none => .error .overflow

/-- The quotient of two integers as a double. -/
def divideInts (a b : Int) : Except Misuse Value :=
  if b = 0 then .error .zeroDivision
  else
    let x := Binary64.ofRatio ((a < 0) != (b < 0)) a.natAbs b.natAbs
    if x.isInf then .error .overflow else .ok (.float x)

/-- A power of doubles; a negative base takes whole exponents only. -/
def powerReals (x y : Float) : Except Misuse Value :=
  if x == 0.0 && y < 0.0 then .error .zeroDivision
  else if x < 0.0 && y.isFinite && x.isFinite && !Binary64.isWhole y then .ok (.other "complex")
  else
    let r := Float.pow x y
    if r.isInf && x.isFinite && y.isFinite then .error .overflow else .ok (.float r)

/-- Operators on two integers. -/
def applyInts (op : Operator) (a b : Int) : Except Misuse Value :=
  match op with
  | .add => .ok (.int (a + b))
  | .sub => .ok (.int (a - b))
  | .mul => .ok (.int (a * b))
  | .div => divideInts a b
  | .floorDiv => if b = 0 then .error .zeroDivision else .ok (.int (Int.fdiv a b))
  | .mod => if b = 0 then .error .zeroDivision else .ok (.int (Int.fmod a b))
  | .pow =>
    if 0 ≤ b then .ok (.int (Int.pow a b.natAbs))
    else do
      let x ← toReal (.whole a)
      let y ← toReal (.whole b)
      powerReals x y
  | .and => .ok (.int (Bits.and a b))
  | .or => .ok (.int (Bits.or a b))
  | .xor => .ok (.int (Bits.xor a b))

/-- Operators on two doubles. -/
def applyReals (op : Operator) (x y : Float) : Except Misuse Value :=
  match op with
  | .add => .ok (.float (x + y))
  | .sub => .ok (.float (x - y))
  | .mul => .ok (.float (x * y))
  | .div => if y == 0.0 then .error .zeroDivision else .ok (.float (x / y))
  | .floorDiv =>
    if y == 0.0 then .error .zeroDivision else .ok (.float (Binary64.divModFloor x y).1)
  | .mod => if y == 0.0 then .error .zeroDivision else .ok (.float (Binary64.divModFloor x y).2)
  | .pow => powerReals x y
  | .and | .or | .xor => .error .type

/-- Operators on two numbers. -/
def applyNumbers (op : Operator) : Numeric → Numeric → Except Misuse Value
  | .whole a, .whole b => applyInts op a b
  | x, y => do
    if op ∈ [.and, .or, .xor] then throw .type
    let x ← toReal x
    let y ← toReal y
    applyReals op x y

/-- Operators on two truth values: the bitwise ones give a truth value again. -/
def applyBools (op : Operator) (a b : Bool) : Except Misuse Value :=
  match op with
  | .and => .ok (.bool (a && b))
  | .or => .ok (.bool (a || b))
  | .xor => .ok (.bool (a != b))
  | _ => applyInts op (if a then 1 else 0) (if b then 1 else 0)

/-- `count` copies in a row; none if the count is negative. -/
def repeated {α : Type} (xs : List α) (count : Int) : List α :=
  (List.replicate count.toNat xs).flatten

/-- A sequence repeated. -/
def repeatValue? (v : Value) (count : Int) : Option Value :=
  match v with
  | .text s | .code s _ => some (.text (String.ofList (repeated s.toList count)))
  | .list xs => some (.list (repeated xs count))
  | .tuple xs => some (.tuple (repeated xs count))
  | .bytes _ bs => some (.bytes none (repeated bs count))
  | _ => none

/-- Two sequences of one kind joined. -/
def join? (v w : Value) : Option Value :=
  match v, w with
  | .list xs, .list ys => some (.list (xs ++ ys))
  | .tuple xs, .tuple ys => some (.tuple (xs ++ ys))
  | .bytes _ a, .bytes _ b => some (.bytes none (a ++ b))
  | v, w => match v.text?, w.text? with
    | some s, some t => some (.text (s ++ t))
    | _, _ => none

/-- Two mappings merged: the second one's entries win. -/
def merge? (v w : Value) : Option Value :=
  match v.entries?, w.entries? with
  | some es, some fs => some (.map (Entries.update es fs))
  | _, _ => none

/-! ### Sets -/

/-- Two sets combined; the result is of the first one's class. -/
def combineSets? (op : Operator) (v w : Value) : Option Value :=
  match v, w with
  | .set frozen xs, .set _ ys =>
    match op with
    | .sub => some (setOf frozen (without xs ys))
    | .and => some (setOf frozen (common xs ys))
    | .or => some (setOf frozen (xs ++ without ys xs))
    | .xor => some (setOf frozen (without ys xs ++ without xs ys))
    | _ => none
  | _, _ => none

/-! ### Time -/

/-- A length of time, if it is not too long. -/
def asDuration (micros : Int) : Except Misuse Value :=
  if Moment.isDuration micros then .ok (.duration micros) else .error .overflow

/-- A moment shifted. -/
def shift (m : Moment) (micros : Int) : Except Misuse Value :=
  match m.later? micros with
  | some m => .ok (.moment m)
  | none => .error .overflow

/-- A length of time multiplied by a fraction, rounded to nearest, a tie to even. -/
def scale (micros num den : Int) : Except Misuse Value :=
  if den = 0 then .error .zeroDivision
  else
    let n := micros * num
    let r : Int := Number.Binary64.roundDiv n.natAbs den.natAbs
    asDuration (if (n < 0) != (den < 0) then -r else r)

/-- The fraction that a number is. -/
def fractionOf : Numeric → Except Misuse (Int × Int)
  | .whole n => .ok (n, 1)
  | .real x => match Binary64.ratio? x with
    | some r => .ok (r.1, r.2)
    | none => .error (if x.isInf then .overflow else .content)

/-- Operators on a length of time and a number. -/
def applyDuration (op : Operator) (micros : Int) (n : Numeric) : Except Misuse Value :=
  match op, n with
  | .mul, n => do
    let r ← fractionOf n
    scale micros r.1 r.2
  | .div, n => do
    let r ← fractionOf n
    scale micros r.2 r.1
  | .floorDiv, .whole n =>
    if n = 0 then .error .zeroDivision else asDuration (Int.fdiv micros n)
  | _, _ => .error .type

/-- Operators on two lengths of time. -/
def applyDurations (op : Operator) (a b : Int) : Except Misuse Value :=
  match op with
  | .add => asDuration (a + b)
  | .sub => asDuration (a - b)
  | .div => divideInts a b
  | .floorDiv => if b = 0 then .error .zeroDivision else .ok (.int (Int.fdiv a b))
  | .mod => if b = 0 then .error .zeroDivision else asDuration (Int.fmod a b)
  | _ => .error .type

/-- Operators of which an operand is a moment or a length of time. -/
def applyTimes (op : Operator) (v w : Value) : Except Misuse Value :=
  match v, w with
  | .moment a, .moment b =>
    if op = .sub ∧ (a.before? b).isSome then asDuration (a.instant - b.instant) else .error .type
  | .moment m, .duration n =>
    if op = .add then shift m n else if op = .sub then shift m (-n) else .error .type
  | .duration n, .moment m => if op = .add then shift m n else .error .type
  | .duration a, .duration b => applyDurations op a b
  | .duration a, w => match w.numeric? with
    | some n => applyDuration op a n
    | none => .error .type
  | v, .duration b => match v.numeric? with
    | some n => if op = .mul then applyDuration op b n else .error .type
    | none => .error .type
  | _, _ => .error .type

/-! ### All values -/

/-- Operators on anything but two numbers. -/
def applyOther (op : Operator) (v w : Value) : Except Misuse Value :=
  let result := match op with
    | .add => join? v w
    | .mul => match v.int?, w.int? with
      | _, some n => repeatValue? v n
      | some n, _ => repeatValue? w n
      | none, none => none
    | .or => (merge? v w).or (combineSets? op v w)
    | op => combineSets? op v w
  match result with
  | some r => .ok r
  | none =>
    if op = .mod ∧ Formatting.isTemplate v then Formatting.applyDirect v w
    else applyTimes op v w

/-- The value of `v op w`. -/
def apply (op : Operator) (v w : Value) : Except Misuse Value :=
  match v, w with
  | .bool a, .bool b => applyBools op a b
  | v, w => match v.numeric?, w.numeric? with
    | some x, some y => applyNumbers op x y
    | _, _ => applyOther op v w

/-- Operators with one operand. -/
inductive UnaryOperator where
  | neg | pos | abs | invert
  deriving DecidableEq, Repr

def applyUnary (op : UnaryOperator) (v : Value) : Except Misuse Value :=
  match op, v.numeric? with
  | .neg, some (.whole n) => .ok (.int (-n))
  | .neg, some (.real x) => .ok (.float (-x))
  | .pos, some (.whole n) => .ok (.int n)
  | .pos, some (.real x) => .ok (.float x)
  | .abs, some (.whole n) => .ok (.int n.natAbs)
  | .abs, some (.real x) => .ok (.float x.abs)
  | .invert, some (.whole n) => .ok (.int (Bits.not n))
  | op, _ => match op, v with
    | .neg, .duration n => asDuration (-n)
    | .pos, .duration n => .ok (.duration n)
    | .abs, .duration n => asDuration n.natAbs
    | _, _ => .error .type

end LinkedDocs.Value
