import LinkedDocs.Number.DecimalText
import LinkedDocs.Text.Base64
import LinkedDocs.Value.Container
import LinkedDocs.Value.Shown

/-! Documents that stand for values of other types.

    A document with one of the marked keys is the written form of a value that JSON lacks. The first
    such key, in document order, selects the conversion; a document without one stays. Applied to
    each document once its members are complete, the conversion works from the inside out. -/

namespace LinkedDocs.ExtendedJson

open Value (Entries)

abbrev Result := Except Failure Value

def misuse {α : Type} (m : Misuse) : Except Failure α := .error (.misuse m)

/-- A misuse of values as a failure. -/
def lift {α : Type} (x : Except Misuse α) : Except Failure α := x.mapError .misuse

/-- The value under a key that has to be there. -/
def field (doc : Entries) (key : String) : Except Failure Value :=
  match Entries.get? doc (.text key) with
  | some v => .ok v
  | none => misuse .key

/-- The value under the only key of a document. -/
def only (doc : Entries) (key : String) : Except Failure Value := do
  let v ← field doc key
  if doc.length = 1 then pure v else misuse .type

/-- The identifier a value denotes. -/
def objectId (v : Value) : Result :=
  match v with
  | .objectId o => .ok (.objectId o)
  | .bytes _ bs => match ObjectId.ofBytes? bs with
    | some o => .ok (.objectId o)
    | none => misuse .type
  | v => match v.text? with
    | some s => match ObjectId.ofText? s with
      | some o => .ok (.objectId o)
      | none => .error .invalidObjectId
    | none => misuse .type

/-! ### Moments -/

/-- The moment at the given number of milliseconds of universal time. -/
def momentOfMillis (n : Int) : Result :=
  match Moment.ofMicros? (n * 1000) with
  | some m => .ok (.moment m)
  | none => .error .momentOutOfRange

/-- One or two digits of a clock or calendar field, the longer reading first. -/
def takeField? (max : Nat) (cs : List Char) : Option (Nat × List Char) :=
  let ds := (cs.take 2).takeWhile Text.isDigit
  let n := Text.digitsValue ds
  if ds.isEmpty then none
  else if ds.length = 2 ∧ n > max then some (Text.digitsValue (ds.take 1), cs.drop 1)
  else some (n, cs.drop ds.length)

/-- Reads `YYYY-MM-DDTHH:MM:SS`, each field but the year with one or two digits. -/
def clock? (cs : List Char) : Option Moment := do
  let ds := cs.take 4
  guard (ds.length = 4 ∧ ds.all Text.isDigit)
  let year := Text.digitsValue ds
  let cs ← Moment.takeChar? '-' (cs.drop 4)
  let (month, cs) ← takeField? 12 cs
  let cs ← Moment.takeChar? '-' cs
  let (day, cs) ← takeField? 31 cs
  let cs ← match cs with
    | c :: cs => if c = 'T' ∨ c = 't' then some cs else none
    | [] => none
  let (hour, cs) ← takeField? 23 cs
  let cs ← Moment.takeChar? ':' cs
  let (minute, cs) ← takeField? 59 cs
  let cs ← Moment.takeChar? ':' cs
  let (second, cs) ← takeField? 61 cs
  guard cs.isEmpty
  let m : Moment := { year, month, day, hour, minute, second, micro := 0, offset := none }
  if m.isValid then some m else none

/-- A distance from universal time as it is written: its sign, hours and minutes. -/
structure WrittenOffset where
  sign : Char
  hours : List Char
  minutes : List Char

def isSign (c : Char) : Bool := c == '+' || c == '-'

/-- Splits off the written distance from universal time, given the text from its end. A text too
    short to have one has none of the other parts either. -/
def splitOffset? : List Char → Option (List Char × Option WrittenOffset)
  | 'Z' :: rest => some (rest.reverse, none)
  | m₂ :: m₁ :: c :: h₂ :: h₁ :: s :: rest =>
    if isSign s && c == ':' then some (rest.reverse, some ⟨s, [h₁, h₂], [m₁, m₂]⟩)
    else if isSign h₁ then some ((s :: rest).reverse, some ⟨h₁, [h₂, c], [m₁, m₂]⟩)
    else if isSign c then some ((h₂ :: h₁ :: s :: rest).reverse, some ⟨c, [m₁, m₂], ['0']⟩)
    else some ((m₂ :: m₁ :: c :: h₂ :: h₁ :: s :: rest).reverse, none)
  | _ => none

/-- Splits off the part from the last point on. -/
def splitFraction (cs : List Char) : List Char × List Char :=
  let back := cs.reverse.takeWhile (· ≠ '.')
  if back.length = cs.length then (cs, [])
  else (cs.take (cs.length - back.length - 1), '.' :: back.reverse)

/-- The microseconds a fraction of a second denotes, cut off. -/
def microsOf (fraction : List Char) : Except Failure Int :=
  if fraction.isEmpty then .ok 0
  else match Number.readFloat? (String.ofList fraction) with
    | none => misuse .content
    | some x => match Number.Binary64.truncate? (x * 1000000.0) with
      | some n => .ok n
      | none => misuse .overflow

/-- The naive moment of universal time that a text denotes. -/
def momentOfText (s : String) : Result := do
  let some (cs, offset) := splitOffset? s.toList.reverse | misuse .content
  let (cs, fraction) := splitFraction cs
  let micro ← microsOf fraction
  let some m := clock? cs | misuse .content
  if micro < 0 ∨ 999999 < micro then misuse .content
  else
    let seconds : Int ← match offset with
      | none => pure 0
      | some o =>
        let number cs := Number.readInt? (String.ofList cs)
        match number o.hours, number o.minutes with
        | some h, some m => pure ((if o.sign = '-' then -1 else 1) * (h * 3600 + m * 60))
        | _, _ => misuse .content
    match Moment.ofMicros? (m.clockMicros + micro - seconds * 1000000) with
    | some m => .ok (.moment m)
    | none => misuse .overflow

def date (doc : Entries) : Result := do
  let v ← only doc "$date"
  match v.text? with
  | some s => momentOfText s
  | none => momentOfMillis (← lift v.toInt)

/-! ### Regular expressions -/

/-- Flags by letter. -/
def flagOf (c : Char) : Nat :=
  match c with
  | 'i' => 2
  | 'l' => 4
  | 'm' => 8
  | 's' => 16
  | 'u' => 32
  | 'x' => 64
  | _ => 0

/-- The flags of an options value: the letters it is made of. -/
def flagsOf (options : Value) : Except Failure Nat := do
  let letters ← lift options.items
  if letters.all Value.hashable then
    pure (letters.foldl (fun n v => match v with
      | .text s => match s.toList with
        | [c] => n ||| flagOf c
        | _ => n
      | _ => n) 0)
  else misuse .type

def regex (doc : Entries) : Result := do
  match ← field doc "$regex" with
  | .text pattern =>
    let flags ← match Entries.get? doc (.text "$options") with
      | some o => flagsOf o
      | none => pure 0
    pure (.regex false pattern flags)
  | _ => pure (.map doc)

def regularExpression (doc : Entries) : Result := do
  let v ← only doc "$regularExpression"
  if (← lift v.size) ≠ 2 then misuse .type
  else
    match v.entries? with
    | none => misuse .type
    | some es =>
      let options ← field es "options"
      if options.text?.isNone then misuse .type
      else
        let pattern ← field es "pattern"
        regex [(.text "$regex", pattern), (.text "$options", options)]

/-! ### Pointers to documents -/

def dbRef (doc : Entries) : Result :=
  let database? : Option (Option String) :=
    match Entries.get? doc (.text "$db") with
    | none | some .null => some none
    | some v => v.text?.map some
  match (Entries.get? doc (.text "$ref")).bind Value.text?, Entries.get? doc (.text "$id"),
      database? with
  | some collection, some id, some database =>
    let rest := doc.filterMap fun e => e.1.text?.bind fun k =>
      if k ∈ ["$ref", "$id", "$db"] then none else some (k, e.2)
    if rest.any fun e => e.1 ∈ ["collection", "id", "database", "self"] then misuse .type
    else .ok (.dbRef collection id database rest)
  | _, _, _ => .ok (.map doc)

def dbPointer (doc : Entries) : Result := do
  match ← only doc "$dbPointer" with
  | .dbRef c (.objectId o) none [] => pure (.dbRef c (.objectId o) none [])
  | _ => misuse .type

/-! ### Numbers -/

/-- The text under the only key of a document. -/
def onlyText (doc : Entries) (key : String) : Except Failure String := do
  let v ← only doc key
  match v.text? with
  | some s => pure s
  | none => misuse .type

def numberInt (doc : Entries) : Result := do
  match Number.readInt? (← onlyText doc "$numberInt") with
  | some n => pure (.int n)
  | none => misuse .content

def numberDouble (doc : Entries) : Result := do
  match Number.readFloat? (← onlyText doc "$numberDouble") with
  | some x => pure (.float x)
  | none => misuse .content

def numberDecimal (doc : Entries) : Result := do
  match Number.DecimalText.normal? (← onlyText doc "$numberDecimal") with
  | some s => pure (.decimal s)
  | none => .error .invalidDecimal

def numberLong (doc : Entries) : Result := do
  let v ← only doc "$numberLong"
  pure (.long (← lift v.toInt))

/-! ### Bytes -/

/-- Bytes of a subtype; subtype 0 is plain. -/
def bytesOf (data : String) (subtype : Int) : Result :=
  match Text.Base64.decode? data.toList with
  | none => .error .invalidEncoding
  | some bs =>
    if subtype = 0 then .ok (.bytes none bs)
    else if 0 < subtype ∧ subtype < 256 then .ok (.bytes (some subtype.toNat) bs)
    else misuse .content

/-- The hexadecimal number that a text denotes. -/
def hexInt (s : String) : Except Failure Int :=
  match Number.readHex? s with
  | some n => .ok n
  | none => misuse .content

/-- The hexadecimal digits of an integer. -/
def hexText (n : Int) : String :=
  String.ofList ((if n < 0 then ['-'] else []) ++ Nat.toDigits 16 n.natAbs)

/-- The older form: the data as text, and the subtype beside it as a number or in hexadecimal. A
    subtype may be written as a negative number of 32 bits. -/
def binaryWithType (data type : Value) : Result := do
  let s ← match type.int?, type.text? with
    | some n, _ => pure (hexText n)
    | none, some s => pure s
    | none, none => misuse .type
  let n ← hexInt s
  let subtype ← if n ≥ 0xFFFFFF80 then hexInt (String.ofList (s.toList.drop 6)) else pure n
  match data.text? with
  | some s => bytesOf s subtype
  | none => misuse .attribute

def binary (doc : Entries) : Result := do
  let v ← field doc "$binary"
  match Entries.get? doc (.text "$type") with
  | some type => binaryWithType v type
  | none =>
    match v.entries? with
    | none => misuse .type
    | some es =>
      let data ← field es "base64"
      let subtype ← field es "subType"
      match data.text?, subtype.text? with
      | some data, some subtype =>
        if subtype.length > 2 ∨ es.length ≠ 2 then misuse .type
        else bytesOf data (← hexInt subtype)
      | _, _ => misuse .type

/-- A universally unique identifier: a hexadecimal number of 32 characters, hyphens not counted. -/
def uuid (doc : Entries) : Result := do
  let s ← onlyText doc "$uuid"
  let s := (s.replace "urn:" "").replace "uuid:" ""
  let isBrace (c : Char) : Bool := c == '{' || c == '}'
  let cs := ((s.toList.dropWhile isBrace).reverse.dropWhile isBrace).reverse
  let cs := cs.filter (· ≠ '-')
  if cs.length ≠ 32 then misuse .content
  else
    let n ← hexInt (String.ofList cs)
    if n < 0 then misuse .content
    else match Text.bytesOfHex? (Text.hex 32 n.toNat) with
      | some bs => pure (.bytes (some 4) bs)
      | none => misuse .content

/-! ### Other types -/

def timestamp (doc : Entries) : Result := do
  let v ← only doc "$timestamp"
  match v.entries? with
  | none => misuse .type
  | some es =>
    if es.length ≠ 2 then misuse .type
    else
      let t ← field es "t"
      let i ← field es "i"
      match t.int?, i.int? with
      | some t, some i =>
        let ok (n : Int) : Bool := 0 ≤ n && n < 4294967296
        if ok t && ok i then pure (.timestamp t i) else misuse .content
      | _, _ => misuse .type

def code (doc : Entries) : Result := do
  if doc.any fun e => !(e.1.equal (.text "$code") || e.1.equal (.text "$scope")) then misuse .type
  else
    match (← field doc "$code").text? with
    | none => misuse .type
    | some s =>
      let scope := (Entries.get? doc (.text "$scope")).getD .null
      if scope.isNull || scope.isMapping then pure (.code s scope) else misuse .type

/-- The least and the greatest key are marked by the number one. -/
def extremeKey (doc : Entries) (key : String) (v : Value) : Result := do
  match ← field doc key with
  | .int 1 => if doc.length = 1 then pure v else misuse .type
  | _ => misuse .type

/-- The conversion that a key selects. -/
def conversion? (key : String) : Option (Entries → Result) :=
  match key with
  | "$oid" => some fun doc => do objectId (← only doc "$oid")
  | "$date" => some date
  | "$regex" => some regex
  | "$regularExpression" => some regularExpression
  | "$ref" => some dbRef
  | "$dbPointer" => some dbPointer
  | "$numberInt" => some numberInt
  | "$numberDouble" => some numberDouble
  | "$numberDecimal" => some numberDecimal
  | "$numberLong" => some numberLong
  | "$binary" => some binary
  | "$uuid" => some uuid
  | "$timestamp" => some timestamp
  | "$code" => some code
  | "$minKey" => some fun doc => extremeKey doc "$minKey" .minKey
  | "$maxKey" => some fun doc => extremeKey doc "$maxKey" .maxKey
  | "$undefined" => some fun _ => .ok .null
  | "$symbol" => some fun doc => do
    pure (.text (← lift (← only doc "$symbol").written))
  | _ => none

/-- The value a complete document stands for. -/
def interpret (doc : Entries) : Result :=
  match doc.findSome? fun e => e.1.text?.bind conversion? with
  | some f => f doc
  | none => .ok (.map doc)

end LinkedDocs.ExtendedJson
