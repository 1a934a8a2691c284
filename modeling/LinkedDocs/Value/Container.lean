import LinkedDocs.Value.Order
import LinkedDocs.Number.Reading

/-! Reading and changing containers.

    Texts, lists, tuples and byte strings are read by position, counted from the end if negative;
    mappings by key. Only lists and mappings can be changed. -/

namespace LinkedDocs.Value

/-- The items a value is made of, in order; a mapping is made of its keys. -/
def items (v : Value) : Except Misuse (List Value) :=
  match v with
  | .list xs | .tuple xs | .set _ xs => .ok xs
  | .text s | .code s _ => .ok (s.toList.map fun c => .text c.toString)
  | .bytes _ bs => .ok (bs.map fun b => .int b.toNat)
  | .map es | .mapping _ es => .ok (es.map (·.1))
  | .entity s fs =>
    if s.form == .model then .ok (fs.map fun f => .tuple [.text f.1, f.2]) else .error .type
  | _ => .error .type

/-- How many items a container has. -/
def size (v : Value) : Except Misuse Nat :=
  match v with
  | .entity .. => .error .type
  | .url s => .ok s.length
  | v => v.items.map List.length

/-- The items from the last to the first; the items of a set have no order. -/
def reversedItems (v : Value) : Except Misuse (List Value) :=
  match v with
  | .set .. | .entity .. => .error .type
  | v => v.items.map List.reverse

/-- The place a position denotes in a sequence of the given size. -/
def place? (size : Nat) (i : Int) : Option Nat :=
  let j := if i < 0 then i + size else i
  if 0 ≤ j ∧ j < size then some j.toNat else none

/-- The item of a sequence at a position. -/
def itemAt (xs : List Value) (key : Value) : Except Misuse Value :=
  match key.int? with
  | none => .error .type
  | some i => match (place? xs.length i).bind (xs[·]?) with
    | some x => .ok x
    | none => .error .index

/-- Whether the value is read by position. -/
def isPositional : Value → Bool
  | .list _ | .tuple _ | .text _ | .code .. | .bytes .. => true
  | _ => false

/-- Reads an item by position or key. -/
def getItem (v key : Value) : Except Misuse Value :=
  match v.entries? with
  | some es =>
    if !key.hashable then .error .type
    else match Entries.get? es key with
      | some x => .ok x
      | none => .error .key
  | none => if v.isPositional then v.items.bind (itemAt · key) else .error .type

/-- Whether a value of a type without items to change still takes a position. -/
def takesPosition : Value → Bool
  | .null | .bool _ | .int _ | .float _ | .moment _ | .duration _ | .zone _ | .function | .kind _
  | .other _ | .deferred .. => false
  | _ => true

/-- The misuse of changing an item of a value that has none to change. A position that is too large
    for any container is one before that. -/
def noItem (v key : Value) : Misuse :=
  match key.int? with
  | some n =>
    if v.takesPosition ∧ (n < -0x8000000000000000 ∨ 0x7fffffffffffffff < n) then .index else .type
  | none => .type

/-- Writes an item by position or key. -/
def setItem (v key item : Value) : Except Misuse Value :=
  match v with
  | .list xs => match key.int? with
    | none => .error .type
    | some i => match place? xs.length i with
      | some j => .ok (.list (xs.set j item))
      | none => .error .index
  | .map es => if key.hashable then .ok (.map (Entries.put es key item)) else .error .type
  | .mapping t es =>
    if key.hashable then .ok (.mapping t (Entries.put es key item)) else .error .type
  | v => .error (v.noItem key)

/-- Removes an entry; it has to be there. -/
def eraseKey (es : Entries) (key : Value) : Except Misuse Entries :=
  if !key.hashable then .error .type
  else if Entries.contains es key then .ok (Entries.erase es key) else .error .key

/-- Removes an item by position or key. -/
def deleteItem (v key : Value) : Except Misuse Value :=
  match v with
  | .list xs => match key.int? with
    | none => .error .type
    | some i => match place? xs.length i with
      | some j => .ok (.list (xs.eraseIdx j))
      | none => .error .index
  | .map es => (eraseKey es key).map .map
  | .mapping t es => (eraseKey es key).map (.mapping t)
  | v => .error (v.noItem key)

/-- Whether `part` occurs in `whole` as a run of characters. -/
def isInfix (part : List Char) : List Char → Bool
  | [] => part.isEmpty
  | c :: cs => part.isPrefixOf (c :: cs) || isInfix part cs

/-- Whether a byte string contains another one. -/
def isInfixBytes (part : List UInt8) : List UInt8 → Bool
  | [] => part.isEmpty
  | c :: cs => part.isPrefixOf (c :: cs) || isInfixBytes part cs

/-- Whether an item, a key or a part occurs in the container. -/
def contains (v item : Value) : Except Misuse Bool :=
  match v with
  | .list xs | .tuple xs => .ok (item.occursIn xs)
  | .set _ xs => if item.hashable || item.isSet then .ok (item.occursIn xs) else .error .type
  | .map es | .mapping _ es =>
    if item.hashable then .ok (Entries.contains es item) else .error .type
  | .text s | .code s _ => match item.text? with
    | some t => .ok (isInfix t.toList s.toList)
    | none => .error .type
  | .bytes _ bs => match item with
    | .bytes _ cs => .ok (isInfixBytes cs bs)
    | item => match item.int? with
      | some n =>
        if 0 ≤ n ∧ n < 256 then .ok (bs.any fun b => b.toNat == n.toNat) else .error .content
      | none => .error .type
  | .entity s fs =>
    if s.form == .model then .ok (item.occursIn (fs.map fun f => .tuple [.text f.1, f.2]))
    else .error .type
  | _ => .error .type

/-! ### Conversions -/

def utf8Text? (bs : List UInt8) : Option String := String.fromUTF8? (ByteArray.mk bs.toArray)

/-- The integer a value converts to. -/
def toInt (v : Value) : Except Misuse Int :=
  match v with
  | .float x => match Number.Binary64.truncate? x with
    | some n => .ok n
    | none => .error (if x.isInf then .overflow else .content)
  | .text s | .code s _ => match Number.readInt? s with
    | some n => .ok n
    | none => .error .content
  | .bytes _ bs => match (utf8Text? bs).bind Number.readInt? with
    | some n => .ok n
    | none => .error .content
  | v => match v.int? with
    | some n => .ok n
    | none => .error .type

/-- The double a value converts to. -/
def toFloat (v : Value) : Except Misuse Float :=
  match v with
  | .float x => .ok x
  | .text s | .code s _ => match Number.readFloat? s with
    | some x => .ok x
    | none => .error .content
  | .bytes _ bs => match (utf8Text? bs).bind Number.readFloat? with
    | some x => .ok x
    | none => .error .content
  | v => match v.int? with
    | some n => match Number.Binary64.ofInt? n with
      | some x => .ok x
      | none => .error .overflow
    | none => .error .type

/-- The position a value denotes: integers only. -/
def toIndex (v : Value) : Except Misuse Int :=
  match v.int? with
  | some n => .ok n
  | none => .error .type

end LinkedDocs.Value
