import LinkedDocs.Pattern.Matching
import LinkedDocs.Value.Attribute
import LinkedDocs.Value.Collection
import LinkedDocs.Value.Container
import LinkedDocs.Value.FieldText
import LinkedDocs.Value.TextMethod

/-! Methods of values that do not change.

    Numbers, byte strings, moments and the types of a database answer questions about themselves. A
    method that is called with other arguments than it takes is a misuse of types. -/

namespace LinkedDocs.Value

/-- A fraction in lowest terms. -/
def fractionValue (num : Int) (den : Nat) : Value :=
  let g := Nat.gcd num.natAbs den
  .tuple [.int (num / g), .int (den / g : Nat)]

/-- How many binary digits a number has. -/
def bitLength (n : Nat) : Nat := if n = 0 then 0 else Nat.log2 n + 1

def wholeMethod (n : Int) (name : String) (args : List Value) : Except Misuse Value :=
  match name, args with
  | "bit_length", [] => .ok (.int (bitLength n.natAbs))
  | "bit_count", [] => .ok (.int ((Nat.toDigits 2 n.natAbs).filter (· = '1')).length)
  | "conjugate", [] => .ok (.int n)
  | "as_integer_ratio", [] => .ok (fractionValue n 1)
  | _, _ => .error .type

def realMethod (x : Float) (name : String) (args : List Value) : Except Misuse Value :=
  match name, args with
  | "is_integer", [] => .ok (.bool (Number.Binary64.isWhole x))
  | "conjugate", [] => .ok (.float x)
  | "as_integer_ratio", [] =>
    match Number.Binary64.ratio? x with
    | some r => .ok (fractionValue r.1 r.2)
    | none => .error (if x.isInf then .overflow else .content)
  | _, _ => .error .type

def bytesMethod (bs : List UInt8) (name : String) (args : List Value) : Except Misuse Value :=
  match name, args with
  | "hex", [] => .ok (.text (Text.hexBytes bs))
  | "decode", [] =>
    match utf8Text? bs with
    | some s => .ok (.text s)
    | none => .error .content
  | _, _ => .error .type

/-- The day of the week, Monday being zero. -/
def weekday (m : Moment) : Int :=
  Int.emod (Moment.daysFromCivil m.year m.month m.day + 3) 7

/-- A moment with some of its fields replaced, in order, if there is one. -/
def replaceFields (m : Moment) (fields : List Int) : Except Misuse Moment := do
  let old : List Int := [m.year, m.month, m.day, m.hour, m.minute, m.second, m.micro]
  let new := fields ++ old.drop fields.length
  if new.any (· < 0) then .error .content
  else
    match new.map Int.toNat with
    | [year, month, day, hour, minute, second, micro] =>
      let m : Moment := ⟨year, month, day, hour, minute, second, micro, m.offset⟩
      if m.isValid then pure m else .error .content
    | _ => .error .type

def momentMethod (m : Moment) (name : String) (args : List Value) : Except Misuse Value :=
  match name, args with
  | "isoformat", [] => .ok (.text m.isoText)
  | "isoformat", [sep] => do
    match ← TextMethod.textOf sep with
    | [c] => pure (.text (m.textWith c))
    | _ => .error .type
  | "weekday", [] => .ok (.int (weekday m))
  | "isoweekday", [] => .ok (.int (weekday m + 1))
  | "toordinal", [] => .ok (.int (Moment.daysFromCivil m.year m.month m.day + 719163))
  | "utcoffset", [] => .ok ((m.offset.map fun s => .duration (s * 1000000)).getD .null)
  | "tzname", [] => .ok ((m.offset.map fun s => .text (Moment.zoneText s)).getD .null)
  | "dst", [] => .ok .null
  | "replace", args => do
    let fields ← args.mapM toIndex
    let m ← replaceFields m fields
    pure (.moment m)
  | "timestamp", [] =>
    .ok (.float (Number.Binary64.ofRatio (m.instant < 0) m.instant.natAbs 1000000))
  | "date", [] => .ok (.other "date")
  | "time", [] | "timetz", [] => .ok (.other "time")
  | _, _ => .error .type

/-- A pointer to a document as a document. -/
def pointerDocument (collection : String) (id : Value) (database : Option String)
    (extras : List (String × Value)) : Value :=
  .mapping "SON"
    ([(.text "$ref", .text collection), (.text "$id", id)] ++
      (database.map fun d => (.text "$db", .text d)).toList ++
      extras.map fun e => (.text e.1, e.2))

/-- The methods of a type that has a class of its own. -/
def specialMethod (v : Value) (name : String) (args : List Value) : Except Misuse Value :=
  match v, name, args with
  | .duration n, "total_seconds", [] =>
    .ok (.float (Number.Binary64.ofRatio (n < 0) n.natAbs 1000000))
  | .dbRef c id db extras, "as_doc", [] => .ok (pointerDocument c id db extras)
  | .timestamp t _, "as_datetime", [] =>
    match Moment.ofMicros? (t * 1000000) with
    | some m => .ok (.moment m.atUniversal)
    | none => .error .content
  | .decimal _, "to_decimal", [] => .ok (.other "Decimal")
  | .url s, "unicode_string", [] => .ok (.text s)
  | .url s, "unicode_host", [] => .ok (((Url.ofText s).host.map .text).getD .null)
  | .url s, "query_params", [] =>
    .ok (.list ((Url.ofText s).parameters.map fun p => .tuple [.text p.1, .text p.2]))
  | .regex true .., "search", [w] =>
    match v.pattern?, w.text? with
    | some p, some s => .ok (if p.search s then .other "Match" else .null)
    | _, _ => .error .type
  | .regex false p f, "try_compile", [] =>
    match Pattern.compile p f with
    | .ok p => .ok (.ofPattern p)
    | .error _ => .error .content
  | .entity s fs, "model_dump", [] =>
    if s.form == .model then .ok (.map (fs.map fun f => (.text f.1, f.2))) else .error .type
  | .entity s _, "model_copy", [] => if s.form == .model then .ok v else .error .type
  | _, _, _ => .error .type

/-- The methods of a text, with those that put values into it. -/
def textMethod (cs : List Char) (name : String) (args : List Value) : Except Misuse Value :=
  match name, args with
  | "format", args => FieldText.apply ⟨some args, none⟩ cs
  | "format_map", [v] => FieldText.apply ⟨none, some v⟩ cs
  | "__format__", [spec] => do
    let spec ← TextMethod.textOf spec
    let cs ← (Value.text (String.ofList cs)).fieldText spec
    pure (TextMethod.ofChars cs)
  | name, args => TextMethod.call cs name args

/-- The methods of a value that does not change. -/
def partMethod (v : Value) (name : String) (args : List Value) : Except Misuse Value :=
  match v with
  | .text s | .code s _ => textMethod s.toList name args
  | .bool b => wholeMethod (if b then 1 else 0) name args
  | .int n | .long n => wholeMethod n name args
  | .float x => realMethod x name args
  | .bytes _ bs => bytesMethod bs name args
  | .moment m => momentMethod m name args
  | v => specialMethod v name args

end LinkedDocs.Value
