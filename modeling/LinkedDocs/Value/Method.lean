import LinkedDocs.Entity.Conversion
import LinkedDocs.Sorting
import LinkedDocs.Value.PartMethod

/-! Methods of lists, mappings and sets.

    A method gives a result and leaves the container changed or as it was. A wrong number of
    arguments is a misuse of types, an unknown method one of attributes. -/

namespace LinkedDocs.Value

/-- What a method gives back and the container after it. -/
structure Effect where
  result : Value
  after : Value

/-- The position at which an item is inserted; out of range means at an end. -/
def insertionPlace (size : Nat) (i : Int) : Nat :=
  let j := if i < 0 then i + size else i
  min j.toNat size

/-- The position of the first item that is equal. -/
def indexOf? (x : Value) (xs : List Value) : Option Nat := xs.findIdx? fun y => x.equal y

/-- The position of the first item that is equal, of those between two positions. -/
def indexBetween (x : Value) (xs : List Value) (start stop : Int) : Except Misuse Effect :=
  let start := TextMethod.clamp xs.length start
  match indexOf? x ((xs.take (TextMethod.clamp xs.length stop)).drop start) with
  | some j => .ok ⟨.int (start + j : Nat), .list xs⟩
  | none => .error .content

def listMethod (xs : List Value) (name : String) (args : List Value) : Except Misuse Effect :=
  match name, args with
  | "append", [x] => .ok ⟨.null, .list (xs ++ [x])⟩
  | "extend", [v] => v.items.map fun ys => ⟨.null, .list (xs ++ ys)⟩
  | "insert", [i, x] => do
    let j := insertionPlace xs.length (← i.toIndex)
    pure ⟨.null, .list (xs.take j ++ x :: xs.drop j)⟩
  | "remove", [x] => match indexOf? x xs with
    | some j => .ok ⟨.null, .list (xs.eraseIdx j)⟩
    | none => .error .content
  | "pop", [] => match xs.getLast? with
    | some x => .ok ⟨x, .list xs.dropLast⟩
    | none => .error .index
  | "pop", [i] => do
    let i ← i.toIndex
    match place? xs.length i with
    | none => throw .index
    | some j => match xs[j]? with
      | some x => pure ⟨x, .list (xs.eraseIdx j)⟩
      | none => throw .index
  | "index", [x] => match indexOf? x xs with
    | some j => .ok ⟨.int j, .list xs⟩
    | none => .error .content
  | "index", [x, i] => do
    let i ← i.toIndex
    indexBetween x xs i xs.length
  | "index", [x, i, j] => do
    let i ← i.toIndex
    let j ← j.toIndex
    indexBetween x xs i j
  | "count", [x] => .ok ⟨.int (xs.filter fun y => x.equal y).length, .list xs⟩
  | "reverse", [] => .ok ⟨.null, .list xs.reverse⟩
  | "sort", [] => (Sorting.sort less xs).map fun ys => ⟨.null, .list ys⟩
  | "clear", [] => .ok ⟨.null, .list []⟩
  | "copy", [] => .ok ⟨.list xs, .list xs⟩
  | name, _ =>
    if name ∈ ["append", "extend", "insert", "remove", "pop", "index", "count", "reverse", "sort",
      "clear", "copy"] then .error .type else .error .attribute

/-- The mapping with changed entries and the class it had. -/
def withEntries (v : Value) (es : Entries) : Value :=
  match v with
  | .mapping t _ => .mapping t es
  | _ => .map es

/-- A key that can be one. -/
def asKey (k : Value) : Except Misuse Value := if k.hashable then .ok k else .error .type

def mapMethod (v : Value) (es : Entries) (name : String) (args : List Value) :
    Except Misuse Effect :=
  match name, args with
  | "get", [k] => (asKey k).map fun k => ⟨(Entries.get? es k).getD .null, v⟩
  | "get", [k, d] => (asKey k).map fun k => ⟨(Entries.get? es k).getD d, v⟩
  | "update", [] => .ok ⟨.null, v⟩
  | "update", [w] =>
    (Conversion.entriesOf w).map fun fs => ⟨.null, v.withEntries (Entries.update es fs)⟩
  | "pop", [k] => (asKey k).bind fun k => match Entries.get? es k with
    | some x => .ok ⟨x, v.withEntries (Entries.erase es k)⟩
    | none => .error .key
  | "pop", [k, d] => (asKey k).map fun k =>
    ⟨(Entries.get? es k).getD d, v.withEntries (Entries.erase es k)⟩
  | "popitem", [] => match es.getLast? with
    | some (k, x) => .ok ⟨.tuple [k, x], v.withEntries es.dropLast⟩
    | none => .error .key
  | "setdefault", [k] => (asKey k).map fun k => match Entries.get? es k with
    | some x => ⟨x, v⟩
    | none => ⟨.null, v.withEntries (Entries.put es k .null)⟩
  | "setdefault", [k, d] => (asKey k).map fun k => match Entries.get? es k with
    | some x => ⟨x, v⟩
    | none => ⟨d, v.withEntries (Entries.put es k d)⟩
  | "clear", [] => .ok ⟨.null, v.withEntries []⟩
  | "copy", [] => .ok ⟨.map es, v⟩
  | "keys", [] => .ok ⟨.other "dict_keys", v⟩
  | "values", [] => .ok ⟨.other "dict_values", v⟩
  | "items", [] => .ok ⟨.other "dict_items", v⟩
  | name, _ =>
    if name ∈ ["get", "update", "pop", "popitem", "setdefault", "clear", "copy", "keys", "values",
      "items"] then .error .type else .error .attribute

/-- The items of some values, all of which can be in a set. -/
def keysOf (vs : List Value) : Except Misuse (List Value) := do
  let xss ← vs.mapM items
  xss.flatten.mapM asKey

/-- The items that are in all the others, too. -/
def commonToAll (xs : List Value) (yss : List (List Value)) : List Value :=
  yss.foldl common xs

/-- Methods of all sets: their results, if the set has such a method. -/
def setQuestion (frozen : Bool) (xs : List Value) (name : String) (args : List Value) :
    Option (Except Misuse Value) :=
  match name, args with
  | "copy", [] => some (.ok (.set frozen xs))
  | "union", args => some ((keysOf args).map fun ys => setOf frozen (xs ++ without ys xs))
  | "difference", args => some ((keysOf args).map fun ys => setOf frozen (without xs ys))
  | "intersection", args =>
    some ((args.mapM fun v => keysOf [v]).map fun yss => setOf frozen (commonToAll xs yss))
  | "symmetric_difference", [v] =>
    some ((keysOf [v]).map fun ys =>
      setOf frozen (without (distinct ys) xs ++ without xs ys))
  | "isdisjoint", [v] => some ((keysOf [v]).map fun ys => .bool (common xs ys).isEmpty)
  | "issubset", [v] => some ((keysOf [v]).map fun ys => .bool (allWithin xs ys))
  | "issuperset", [v] => some ((keysOf [v]).map fun ys => .bool (allWithin ys xs))
  | _, _ => none

/-- Methods that change a set. -/
def setChange (xs : List Value) (name : String) (args : List Value) :
    Except Misuse Effect := do
  let changed (ys : List Value) : Effect := ⟨.null, setOf false ys⟩
  match name, args with
  | "add", [x] => do
    let x ← asKey x
    pure (changed (xs ++ [x]))
  | "discard", [x] => do
    let x ← asKey x
    pure (changed (without xs [x]))
  | "remove", [x] => do
    let x ← asKey x
    if x.occursIn xs then pure (changed (without xs [x])) else .error .key
  | "pop", [] =>
    match xs with
    | [] => .error .key
    | x :: xs => pure ⟨x, .set false xs⟩
  | "clear", [] => pure (changed [])
  | "update", args => do
    let ys ← keysOf args
    pure (changed (xs ++ ys))
  | "difference_update", args => do
    let ys ← keysOf args
    pure (changed (without xs ys))
  | "intersection_update", args => do
    let yss ← args.mapM fun v => keysOf [v]
    pure (changed (commonToAll xs yss))
  | "symmetric_difference_update", [v] => do
    let ys ← keysOf [v]
    pure (changed (without xs ys ++ without ys xs))
  | _, _ => .error .type

def setMethod (frozen : Bool) (xs : List Value) (name : String) (args : List Value) :
    Except Misuse Effect :=
  match setQuestion frozen xs name args with
  | some r => r.map fun result => ⟨result, .set frozen xs⟩
  | none => if frozen then .error .type else setChange xs name args

/-- Calls an attribute: a function, or what the type of the value brings. -/
def callAttribute (v : Value) (name : String) (args : List Value) : Except Misuse Effect :=
  match v.attribute? name with
  | some .function => .ok ⟨.list [.list args, .map []], v⟩
  | some _ =>
    match v with
    | .set frozen xs => setMethod frozen xs name args
    | v => (partMethod v name args).map fun result => ⟨result, v⟩
  | none => .error .attribute

/-- Calls a method. -/
def callMethod (v : Value) (name : String) (args : List Value) : Except Misuse Effect :=
  match v with
  | .list xs => listMethod xs name args
  | .tuple xs =>
    if name = "index" ∨ name = "count" then
      (listMethod xs name args).map fun e => ⟨e.result, .tuple xs⟩
    else .error .attribute
  | v => match v.entries? with
    | some es => mapMethod v es name args
    | none => v.callAttribute name args

/-- The items of some values before the first that cannot be in a set. -/
def leadingKeys (vs : List Value) : List Value :=
  let xss := ((vs.map items).takeWhile Except.isOk).filterMap Except.toOption
  xss.flatten.takeWhile hashable

/-- What a method that fails leaves in a container: a mapping has taken the entries, a set the
    items, that come before the fault. -/
def afterFailure (v : Value) (name : String) (args : List Value) : Value :=
  match v, name, args with
  | .set false xs, "update", args => match leadingKeys args with
    | [] => v
    | ys => setOf false (xs ++ ys)
  | .set false xs, "difference_update", args => match leadingKeys args with
    | [] => v
    | ys => setOf false (without xs ys)
  | v, "update", [w] => match v.entries? with
    | some es => v.withEntries (Entries.update es (Conversion.leadingEntries w))
    | none => v
  | v, _, _ => v

/-- The value after a method, whether that fails or not. -/
def afterMethod (v : Value) (name : String) (args : List Value) : Value :=
  match v.callMethod name args with
  | .ok e => e.after
  | .error _ => v.afterFailure name args

end LinkedDocs.Value
