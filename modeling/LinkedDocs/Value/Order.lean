import LinkedDocs.Value.Equality
import LinkedDocs.Failure

/-! The order of values.

    Numbers, texts, byte strings, moments of one sort, identifiers and, item by item, lists and
    tuples are ordered; to order anything else is a misuse. The first two items that differ decide
    between two lists. -/

namespace LinkedDocs.Value

/-- Lexicographic order of two lists under a strict order that decides between unequal items. -/
def lexLess {α : Type} [DecidableEq α] (less : α → α → Bool) : List α → List α → Bool
  | _, [] => false
  | [], _ :: _ => true
  | x :: xs, y :: ys => if x = y then lexLess less xs ys else less x y

/-- Whether a value with no order of its own against `w` goes before it: the least key goes before
    and the greatest after everything else, and an address before none but another address. -/
def outranked (w : Value) : Except Misuse Bool :=
  match w with
  | .minKey => .ok false
  | .maxKey => .ok true
  | .url _ => .ok false
  | _ => .error .type

mutual

/-- Strictly before. -/
def less : Value → Value → Except Misuse Bool
  | .bool b, w => match w.numeric? with
    | some y => .ok (Numeric.less (.whole (if b then 1 else 0)) y)
    | none => outranked w
  | .int n, w | .long n, w => match w.numeric? with
    | some y => .ok (Numeric.less (.whole n) y)
    | none => outranked w
  | .float x, w => match w.numeric? with
    | some y => .ok (Numeric.less (.real x) y)
    | none => outranked w
  | .text s, w | .code s _, w => match w.text? with
    | some t => .ok (s < t)
    | none => outranked w
  | .list xs, w => match w with
    | .list ys => lessItems xs ys
    | _ => outranked w
  | .tuple xs, w => match w with
    | .tuple ys => lessItems xs ys
    | _ => outranked w
  | .set _ xs, w => match w with
    | .set _ ys => .ok (xs.length < ys.length && allWithin xs ys)
    | _ => outranked w
  | .objectId a, w => match w with
    | .objectId b => .ok (lexLess (fun x y => x < y) a.bytes b.bytes)
    | _ => outranked w
  | .moment a, w => match w with
    | .moment b => match a.before? b with
      | some r => .ok r
      | none => outranked w
    | _ => outranked w
  | .duration a, w => match w with
    | .duration b => .ok (a < b)
    | _ => outranked w
  | .bytes _ a, w => match w with
    | .bytes _ b => .ok (lexLess (fun x y => x < y) a b)
    | _ => outranked w
  | .timestamp a b, w => match w with
    | .timestamp c d => .ok (a < c || (a == c && b < d))
    | _ => outranked w
  | .minKey, w => match w with
    | .minKey => .ok false
    | _ => .ok true
  | .maxKey, _ => .ok false
  | .url s, w => match w with
    | .url t => .ok (s < t)
    | _ => .ok false
  | _, w => outranked w
termination_by structural v => v

/-- Item by item: the first two that differ decide, else the shorter list is before. -/
def lessItems : List Value → List Value → Except Misuse Bool
  | [], ys => .ok (!ys.isEmpty)
  | _ :: _, [] => .ok false
  | x :: xs, y :: ys => if x.equal y then lessItems xs ys else less x y
termination_by structural xs => xs

end

/-- The comparisons. -/
inductive Comparison where
  | lt | le | gt | ge | eq | ne
  deriving DecidableEq, Repr

/-- Before or equal. Doubles that are undefined are neither. -/
def lessOrEqual (v w : Value) : Except Misuse Bool := do
  let l ← less v w
  pure (l || v.equal w)

/-- Whether an address is compared with something else: then it is the address that decides. -/
def isForeign (v w : Value) : Bool :=
  match v, w with
  | .url _, .url _ => false
  | .url _, _ => true
  | _, _ => false

def compareBy : Comparison → Value → Value → Except Misuse Bool
  | .lt, v, w => less v w
  | .le, v, w => lessOrEqual v w
  | .gt, v, w => if isForeign v w then .ok false else less w v
  | .ge, v, w => if isForeign v w then .ok false else lessOrEqual w v
  | .eq, v, w => .ok (v.equal w)
  | .ne, v, w => .ok (!v.equal w)

end LinkedDocs.Value
