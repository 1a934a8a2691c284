import LinkedDocs.Failure
import LinkedDocs.Pattern.Basic
import LinkedDocs.Value.Basic
import LinkedDocs.Number.Shortest
import LinkedDocs.Text.Digit

/-! The two texts of a value.

    `shown` is the form that messages use: texts in quotes, containers with their items, other
    types with their name. `plain` is what is spliced into longer texts: texts as they are, and
    everything else mostly as it is shown. A deferred reference that is loaded shows its target, so
    the shown form is relative to what is loaded. An integer with too many digits cannot be written:
    messages are taken to show none, and a text that one is spliced into is not made. -/

namespace LinkedDocs.Value

def flagNames : List (Pattern.Flag × String) :=
  [(.template, "re.TEMPLATE"), (.ignoreCase, "re.IGNORECASE"), (.locale, "re.LOCALE"),
   (.multiLine, "re.MULTILINE"), (.dotAll, "re.DOTALL"), (.unicode, "re.UNICODE"),
   (.verbose, "re.VERBOSE"), (.debug, "re.DEBUG"), (.ascii, "re.ASCII")]

/-- The flags of a pattern. That it is about all scripts is the default and not mentioned; flags
    without a name are shown as a number. -/
def flagsText (flags : Nat) : String :=
  let flags :=
    if Pattern.hasFlag flags .locale || Pattern.hasFlag flags .ascii then flags
    else Pattern.withoutFlags flags Pattern.Flag.unicode.bit
  let names := flagNames.filterMap fun f => if Pattern.hasFlag flags f.1 then some f.2 else none
  let rest := flags / 512 * 512
  let names := if rest = 0 then names else names ++ ["0x" ++ String.ofList (Nat.toDigits 16 rest)]
  if names.isEmpty then "" else ", " ++ "|".intercalate names

/-- The subtype of bytes that are not to be shown. -/
def sensitiveSubtype : Nat := 8

mutual

/-- The form in messages; `loaded` gives the shown targets of loaded references. -/
def shownWith (loaded : Nat → Option String) : Value → String
  | .null => "None"
  | .bool b => if b then "True" else "False"
  | .int n | .long n => toString n
  | .float x => Number.Shortest.text x
  | .text s => Text.quoted s
  | .list xs => "[" ++ ", ".intercalate (shownAll loaded xs) ++ "]"
  | .tuple xs =>
    match shownAll loaded xs with
    | [x] => "(" ++ x ++ ",)"
    | xs => "(" ++ ", ".intercalate xs ++ ")"
  | .map es | .mapping _ es => "\x7b" ++ ", ".intercalate (shownEntries loaded es) ++ "\x7d"
  | .set frozen xs =>
    let body := if xs.isEmpty then "" else
      "\x7b" ++ ", ".intercalate (shownAll loaded xs) ++ "\x7d"
    if frozen then "frozenset(" ++ body ++ ")" else if xs.isEmpty then "set()" else body
  | .objectId o => "ObjectId('" ++ o.text ++ "')"
  | .moment m => m.shown
  | .duration n => Moment.durationShown n
  | .zone s => Moment.zoneShown s
  | .dbRef c id db extras =>
    let db := match db with
      | none => ""
      | some d => ", " ++ Text.quoted d
    "DBRef(" ++ Text.quoted c ++ ", " ++ shownWith loaded id ++ db ++
      String.join ((shownFields loaded extras).map (", " ++ ·)) ++ ")"
  | .regex false p f => "Regex(" ++ Text.quoted p ++ ", " ++ toString f ++ ")"
  | .regex true p f =>
    "re.compile(" ++ String.ofList ((Text.quoted p).toList.take 200) ++ flagsText f ++ ")"
  | .bytes none bs => Text.quotedBytes bs
  | .bytes (some t) bs =>
    if t = sensitiveSubtype then "<Binary(REDACTED, " ++ toString t ++ ")>"
    else "Binary(" ++ Text.quotedBytes bs ++ ", " ++ toString t ++ ")"
  | .decimal s => "Decimal128('" ++ s ++ "')"
  | .timestamp t i => "Timestamp(" ++ toString t ++ ", " ++ toString i ++ ")"
  | .code s scope => "Code(" ++ Text.quoted s ++ ", " ++ shownWith loaded scope ++ ")"
  | .minKey => "MinKey()"
  | .maxKey => "MaxKey()"
  | .url s => "AnyUrl(" ++ Text.quoted s ++ ")"
  | .record _ => "<Record>"
  | .entity s fs =>
    match s.form with
    | .model | .structural => s.name ++ "(" ++ ", ".intercalate (shownFields loaded fs) ++ ")"
    | _ => "<" ++ s.name ++ ">"
  | .function => "<function>"
  | .deferred id p src =>
    "LazyLoadingProxy(" ++ Text.quoted p ++ ", " ++
      (match loaded id with
       | some target => "resolved=" ++ target
       | none => "source=" ++ shownWith loaded src ++ ", unresolved") ++ ")"
  | .kind name => "<class '" ++ name ++ "'>"
  | .other t => "<" ++ t ++ ">"
termination_by structural v => v

def shownAll (loaded : Nat → Option String) : List Value → List String
  | [] => []
  | x :: xs => shownWith loaded x :: shownAll loaded xs
termination_by structural xs => xs

def shownEntries (loaded : Nat → Option String) : List (Value × Value) → List String
  | [] => []
  | (k, v) :: es => (shownWith loaded k ++ ": " ++ shownWith loaded v) :: shownEntries loaded es
termination_by structural es => es

def shownFields (loaded : Nat → Option String) : List (String × Value) → List String
  | [] => []
  | (k, v) :: fs => (k ++ "=" ++ shownWith loaded v) :: shownFields loaded fs
termination_by structural fs => fs

end

/-- The text spliced into longer texts, relative to what is loaded. -/
def plainWith (loaded : Nat → Option String) : Value → String
  | .text s | .code s _ | .url s | .decimal s => s
  | .objectId o => o.text
  | .moment m => m.textWith ' '
  | .duration n => Moment.durationText n
  | .zone s => Moment.zoneText s
  | .bytes _ bs => Text.quotedBytes bs
  | .entity s fs =>
    if s.form == .model then " ".intercalate (shownFields loaded fs)
    else shownWith loaded (.entity s fs)
  | v => shownWith loaded v

mutual

/-- Whether the form in messages has no integer with too many digits. What a loaded reference shows
    is taken to have none. -/
def isShowable : Value → Bool
  | .int n | .long n => Text.isWritable n
  | .list xs | .tuple xs | .set _ xs => allShowable xs
  | .map es | .mapping _ es => entriesShowable es
  | .dbRef _ id _ extras => id.isShowable && fieldsShowable extras
  | .code _ scope => scope.isShowable
  | .entity s fs =>
    match s.form with
    | .model | .structural => fieldsShowable fs
    | _ => true
  | .deferred _ _ source => source.isShowable
  | _ => true
termination_by structural v => v

def allShowable : List Value → Bool
  | [] => true
  | x :: xs => x.isShowable && allShowable xs
termination_by structural xs => xs

def entriesShowable : List (Value × Value) → Bool
  | [] => true
  | (k, v) :: es => k.isShowable && v.isShowable && entriesShowable es
termination_by structural es => es

def fieldsShowable : List (String × Value) → Bool
  | [] => true
  | (_, v) :: fs => v.isShowable && fieldsShowable fs
termination_by structural fs => fs

end

/-- Whether the text spliced into longer texts has no integer with too many digits. Program code is
    spliced in without its scope. -/
def isWritable : Value → Bool
  | .code .. => true
  | v => v.isShowable

/-- The form in messages, of a value without loaded references. -/
def shown (v : Value) : String := v.shownWith fun _ => none

/-- The text spliced into longer texts, of a value without loaded references. -/
def plain (v : Value) : String := v.plainWith fun _ => none

/-- A text of a value, if the value can be written. -/
def writtenAs (text : Value → String) (v : Value) : Except Misuse String :=
  if v.isWritable then .ok (text v) else .error .content

/-- The text spliced into longer texts, if the value can be written. -/
def written (v : Value) : Except Misuse String := v.writtenAs plain

end LinkedDocs.Value
