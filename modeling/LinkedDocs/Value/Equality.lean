import LinkedDocs.Value.Basic
import LinkedDocs.Number.Binary64

/-! When two values are equal.

    Numbers are compared by what they count, over truth values, integers and doubles; mappings
    without regard to order; a list never equals a tuple, a naive moment never an aware one. Objects
    without an equality of their own are equal to nothing. -/

namespace LinkedDocs

/-- The number a value stands for. -/
inductive Numeric where
  | whole (n : Int)
  | real (x : Float)

namespace Numeric

def equal : Numeric → Numeric → Bool
  | .whole a, .whole b => a == b
  | .whole a, .real x | .real x, .whole a => Number.Binary64.compareInt? a x == some .eq
  | .real x, .real y => x == y

def less : Numeric → Numeric → Bool
  | .whole a, .whole b => a < b
  | .whole a, .real x => Number.Binary64.compareInt? a x == some .lt
  | .real x, .whole a => Number.Binary64.compareInt? a x == some .gt
  | .real x, .real y => x < y

end Numeric

namespace Value

def numeric? : Value → Option Numeric
  | .bool b => some (.whole (if b then 1 else 0))
  | .int n | .long n => some (.whole n)
  | .float x => some (.real x)
  | _ => none

mutual

/-- Equality of values. The first value is taken apart; a mapping's entries are looked up in the
    other one's. -/
def equal : Value → Value → Bool
  | .null, w => w.isNull
  | .bool b, w => (w.numeric?.map (Numeric.equal (.whole (if b then 1 else 0)))).getD false
  | .int n, w | .long n, w => (w.numeric?.map (Numeric.equal (.whole n))).getD false
  | .float x, w => (w.numeric?.map (Numeric.equal (.real x))).getD false
  | .text s, w => match w with | .text t => s == t | _ => false
  | .list xs, w => match w with | .list ys => equalAll xs ys | _ => false
  | .tuple xs, w => match w with | .tuple ys => equalAll xs ys | _ => false
  | .map es, w | .mapping _ es, w =>
    match w.entries? with
    | some fs => es.length == fs.length && entriesWithin es fs
    | none => false
  | .set _ xs, w => match w with
    | .set _ ys => xs.length == ys.length && allWithin xs ys
    | _ => false
  | .objectId a, w => match w with | .objectId b => a == b | _ => false
  | .moment a, w => match w with | .moment b => a.same b | _ => false
  | .duration a, w => match w with | .duration b => a == b | _ => false
  | .zone a, w => match w with | .zone b => a == b | _ => false
  | .dbRef c i d xs, w => match w with
    | .dbRef c' i' d' ys =>
      c == c' && d == d' && i.equal i' && xs.length == ys.length && fieldsWithin xs ys
    | _ => false
  | .regex c p f, w => match w with | .regex c' p' f' => c == c' && p == p' && f == f' | _ => false
  | .bytes s a, w => match w with | .bytes t b => s == t && a == b | _ => false
  | .decimal s, w => match w with | .decimal t => s == t | _ => false
  | .timestamp a b, w => match w with | .timestamp a' b' => a == a' && b == b' | _ => false
  | .code s v, w => match w with | .code t u => s == t && v.equal u | _ => false
  | .minKey, w => match w with | .minKey => true | _ => false
  | .maxKey, w => match w with | .maxKey => true | _ => false
  | .url s, w => match w with | .url t => s == t | _ => false
  | .record _, _ => false
  | .entity s xs, w => match w with
    | .entity t ys =>
      s == t && (s.form == .model || s.form == .structural) &&
        xs.length == ys.length && fieldsWithin xs ys
    | _ => false
  | .function, w => match w with | .function => true | _ => false
  | .deferred _ p v, w => match w with | .deferred _ q u => p == q && v.equal u | _ => false
  | .kind s, w => match w with | .kind t => s == t | _ => false
  | .other _, _ => false
termination_by structural v => v

/-- Item by item. -/
def equalAll : List Value → List Value → Bool
  | [], [] => true
  | x :: xs, y :: ys => x.equal y && equalAll xs ys
  | _, _ => false
termination_by structural v => v

/-- Each item equals one of `ys`. -/
def allWithin : List Value → List Value → Bool
  | [], _ => true
  | x :: xs, ys => ys.any (fun y => x.equal y) && allWithin xs ys
termination_by structural v => v

/-- Each entry has an equal one in `fs`. -/
def entriesWithin : List (Value × Value) → List (Value × Value) → Bool
  | [], _ => true
  | (k, v) :: es, fs => fs.any (fun f => k.equal f.1 && v.equal f.2) && entriesWithin es fs
termination_by structural v => v

/-- Each attribute has an equal one in `gs`. -/
def fieldsWithin : List (String × Value) → List (String × Value) → Bool
  | [], _ => true
  | (k, v) :: fs, gs => gs.any (fun g => k == g.1 && v.equal g.2) && fieldsWithin fs gs
termination_by structural v => v

end

/-- Whether an item equal to the value occurs in the list. -/
def occursIn (v : Value) (xs : List Value) : Bool := xs.any (fun x => v.equal x)

/-! ### Entries of a mapping -/

namespace Entries

/-- The value under a key. -/
def get? (es : Entries) (k : Value) : Option Value := (es.find? fun e => k.equal e.1).map (·.2)

def contains (es : Entries) (k : Value) : Bool := es.any fun e => k.equal e.1

/-- A known key keeps its place and takes the new value, a new one goes to the end. -/
def put : Entries → Value → Value → Entries
  | [], k, v => [(k, v)]
  | (k', v') :: es, k, v => if k.equal k' then (k', v) :: es else (k', v') :: put es k v

def erase : Entries → Value → Entries
  | [], _ => []
  | (k', v') :: es, k => if k.equal k' then es else (k', v') :: erase es k

/-- The mapping a sequence of assignments builds. -/
def ofList (es : List (Value × Value)) : Entries := es.foldl (fun m e => put m e.1 e.2) []

/-- All entries of `other` assigned in turn. -/
def update (es other : Entries) : Entries := other.foldl (fun m e => put m e.1 e.2) es

end Entries

end Value

end LinkedDocs
