import LinkedDocs.Pattern.Compiled
import LinkedDocs.Url
import LinkedDocs.Value.Equality
import LinkedDocs.Value.Member

/-! Attributes of values that are not mappings.

    Objects have their fields, a document pointer its parts and extras, and the other types the few
    parts they are made of; besides, every value has the functions of its type. Expressions and
    dotted paths read attributes; only those of objects can be changed. -/

namespace LinkedDocs.Value

/-- The parts of a moment. -/
def momentPart? (m : Moment) (name : String) : Option Value :=
  match name with
  | "year" => some (.int m.year)
  | "month" => some (.int m.month)
  | "day" => some (.int m.day)
  | "hour" => some (.int m.hour)
  | "minute" => some (.int m.minute)
  | "second" => some (.int m.second)
  | "microsecond" => some (.int m.micro)
  | "fold" => some (.int 0)
  | "min" => some (.moment Moment.earliest)
  | "max" => some (.moment Moment.latest)
  | "resolution" => some (.duration 1)
  | "tzinfo" => some ((m.offset.map .zone).getD .null)
  | _ => none

/-- The parts of a length of time. -/
def durationPart? (micros : Int) (name : String) : Option Value :=
  let (days, seconds, rest) := Moment.splitDuration micros
  match name with
  | "days" => some (.int days)
  | "seconds" => some (.int seconds)
  | "microseconds" => some (.int rest)
  | "resolution" => some (.duration 1)
  | "max" => some (.duration 86399999999999999999)
  | "min" => some (.duration (-86399999913600000000))
  | _ => none

/-- The parts of a whole number, read as a fraction and as a complex number. -/
def wholePart? (n : Int) (name : String) : Option Value :=
  match name with
  | "real" | "numerator" => some (.int n)
  | "imag" => some (.int 0)
  | "denominator" => some (.int 1)
  | _ => none

/-- The parts of an address; one that is not there is null. -/
def urlPart? (u : Url) (name : String) : Option Value :=
  let optional (s : Option String) : Value := (s.map .text).getD .null
  match name with
  | "scheme" => some (.text u.scheme)
  | "username" => some (optional u.username)
  | "password" => some (optional u.password)
  | "host" => some (optional u.host)
  | "port" => some ((u.port.map fun n => .int n).getD .null)
  | "path" => some (optional u.path)
  | "query" => some (optional u.query)
  | "fragment" => some (optional u.fragment)
  | "_url" => some (.other "Url")
  | "_constraints" => some (.other "UrlConstraints")
  | _ => none

/-- The parts of a pattern. Where no group has a name, the groups with names are an ordinary
    mapping. -/
def patternPart? (p : Pattern) (name : String) : Option Value :=
  match name with
  | "pattern" => some (.text p.source)
  | "flags" => some (.int p.flags)
  | "groups" => some (.int p.groups)
  | "groupindex" =>
    let es := p.names.map fun n => (.text n.1, .int n.2)
    some (if es.isEmpty then .map [] else .mapping "mappingproxy" es)
  | _ => none

/-- The number that a database marks values of the type with. -/
def typeMarker? : Value → Option Nat
  | .bytes (some _) _ => some 5
  | .objectId _ => some 7
  | .regex false .. => some 11
  | .code .. => some 13
  | .timestamp .. => some 17
  | .long _ => some 18
  | .decimal _ => some 19
  | .dbRef .. => some 100
  | .maxKey => some 127
  | .minKey => some 255
  | _ => none

/-- The attribute that a value has of its own. -/
def ownAttribute? (v : Value) (name : String) : Option Value :=
  match v with
  | .record fs | .entity _ fs => fs.lookup name
  | .dbRef c id db extras =>
    match name with
    | "collection" => some (.text c)
    | "id" => some id
    | "database" => some ((db.map .text).getD .null)
    | name => extras.lookup name
  | .moment m => momentPart? m name
  | .duration n => durationPart? n name
  | .bool b => wholePart? (if b then 1 else 0) name
  | .int n | .long n => wholePart? n name
  | .float x =>
    match name with
    | "real" => some (.float x)
    | "imag" => some (.float 0.0)
    | _ => none
  | .objectId o =>
    match name with
    | "binary" => some (.bytes none o.bytes)
    | "generation_time" =>
      let seconds : Nat := (o.bytes.take 4).foldl (fun n b => 256 * n + b.toNat) 0
      (Moment.ofMicros? (seconds * 1000000)).map fun m => .moment m.atUniversal
    | _ => none
  | .regex true .. => v.pattern?.bind (patternPart? · name)
  | .regex false p f =>
    match name with
    | "pattern" => some (.text p)
    | "flags" => some (.int f)
    | _ => none
  | .bytes (some t) _ => if name == "subtype" then some (.int t) else none
  | .timestamp t i =>
    match name with
    | "time" => some (.int t)
    | "inc" => some (.int i)
    | _ => none
  | .code _ scope => if name == "scope" then some scope else none
  | .url s => urlPart? (.ofText s) name
  | .kind n => if name = "__name__" ∨ name = "__qualname__" then some (.text n) else none
  | _ => none

/-- The attribute of that name: the value's own, else one that its type brings. -/
def attribute? (v : Value) (name : String) : Option Value :=
  match v.ownAttribute? name with
  | some x => some x
  | none =>
    if name = "_type_marker" then (typeMarker? v).map fun n => .int n else Member.find? v name

/-- Replaces the attribute, or adds it at the end. -/
def putField : List (String × Value) → String → Value → List (String × Value)
  | [], n, v => [(n, v)]
  | (n', v') :: fs, n, v => if n = n' then (n', v) :: fs else (n', v') :: putField fs n v

/-- Writes an attribute. -/
def setAttribute (v : Value) (name : String) (x : Value) : Except Misuse Value :=
  match v with
  | .record fs => .ok (.record (putField fs name x))
  | .entity s fs =>
    match s.form with
    | .model => if name ∈ s.fields then .ok (.entity s (putField fs name x)) else .error .content
    | .slotted =>
      if name ∈ s.fields then .ok (.entity s (putField fs name x)) else .error .attribute
    | _ => .ok (.entity s (putField fs name x))
  | .regex false p f =>
    match name, x with
    | "pattern", .text p => .ok (.regex false p f)
    | "flags", .int n => .ok (.regex false p n.toNat)
    | _, _ => .error .attribute
  | _ => .error .attribute

/-- Removes an attribute; it has to be there. -/
def deleteAttribute (v : Value) (name : String) : Except Misuse Value :=
  match v with
  | .record fs =>
    if (fs.lookup name).isSome then .ok (.record (fs.filter (·.1 != name))) else .error .attribute
  | .entity s fs =>
    if (fs.lookup name).isSome then .ok (.entity s (fs.filter (·.1 != name))) else .error .attribute
  | _ => .error .attribute

/-- One step of a path: a mapping is read by key, everything else by attribute. -/
def child? (v : Value) (name : String) : Option Value :=
  match v.entries? with
  | some es => Entries.get? es (.text name)
  | none => v.attribute? name

/-- The value a dotted path leads to. -/
def descend? (v : Value) : List String → Option Value
  | [] => some v
  | name :: path => (v.child? name).bind (descend? · path)

/-- The names of a dotted path. -/
def pathNames (path : String) : List String :=
  let step (c : Char) (acc : List (List Char)) : List (List Char) :=
    match acc with
    | [] => [[c]]
    | w :: ws => if c = '.' then [] :: w :: ws else (c :: w) :: ws
  (path.toList.foldr step [[]]).map String.ofList

/-- The value at the end of a dotted path, if every step is there. -/
def atPath? (v : Value) (path : String) : Option Value := v.descend? (pathNames path)

example : pathNames "a.b..c" = ["a", "b", "", "c"] := by decide +kernel

end LinkedDocs.Value
