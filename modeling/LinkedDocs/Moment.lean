import LinkedDocs.Text.Digit
import LinkedDocs.Text.Quoted

/-! Points in time.

    A moment is a calendar date with a clock time to the microsecond. It is naive, or it carries its
    distance from universal time; only moments of the same sort can be ordered, and aware ones are
    compared by the instant they name. -/

namespace LinkedDocs

/-- A date and clock time; `offset` is the distance from universal time in seconds. -/
structure Moment where
  year : Nat
  month : Nat
  day : Nat
  hour : Nat
  minute : Nat
  second : Nat
  micro : Nat
  offset : Option Int
  deriving DecidableEq, Repr

namespace Moment

/-! ### The calendar -/

/-- Days from 1970-01-01 to the given date of the proleptic Gregorian calendar. Years are counted
    from March, so that the leap day is the last of its year. -/
def daysFromCivil (year month day : Int) : Int :=
  let y := if month ≤ 2 then year - 1 else year
  let era := Int.fdiv y 400
  let yearOfEra := y - era * 400
  let monthFromMarch := if month > 2 then month - 3 else month + 9
  let dayOfYear := (153 * monthFromMarch + 2) / 5 + day - 1
  let dayOfEra := yearOfEra * 365 + yearOfEra / 4 - yearOfEra / 100 + dayOfYear
  era * 146097 + dayOfEra - 719468

/-- The date that lies the given number of days after 1970-01-01. -/
def civilFromDays (days : Int) : Int × Nat × Nat :=
  let z := days + 719468
  let era := Int.fdiv z 146097
  let dayOfEra := z - era * 146097
  let yearOfEra := (dayOfEra - dayOfEra / 1460 + dayOfEra / 36524 - dayOfEra / 146096) / 365
  let dayOfYear := dayOfEra - (365 * yearOfEra + yearOfEra / 4 - yearOfEra / 100)
  let monthFromMarch := (5 * dayOfYear + 2) / 153
  let day := dayOfYear - (153 * monthFromMarch + 2) / 5 + 1
  let month := if monthFromMarch < 10 then monthFromMarch + 3 else monthFromMarch - 9
  let year := yearOfEra + era * 400
  (if month ≤ 2 then year + 1 else year, month.toNat, day.toNat)

def isLeap (year : Nat) : Bool := year % 4 == 0 && (year % 100 != 0 || year % 400 == 0)

def daysInMonth (year month : Nat) : Nat :=
  if month = 2 then (if isLeap year then 29 else 28)
  else if month ∈ [4, 6, 9, 11] then 30 else 31

/-- Microseconds since 1970-01-01 of the clock time, whatever its offset. -/
def clockMicros (m : Moment) : Int :=
  let days := daysFromCivil m.year m.month m.day
  ((days * 86400 + m.hour * 3600 + m.minute * 60 + m.second) * 1000000) + m.micro

/-- The instant, in microseconds of universal time; a naive moment counts as universal. -/
def instant (m : Moment) : Int := m.clockMicros - m.offset.getD 0 * 1000000

/-- The naive moment at the given number of microseconds, if its year has four digits. -/
def ofMicros? (n : Int) : Option Moment :=
  let days := Int.fdiv n 86400000000
  let rest := (n - days * 86400000000).toNat
  let (year, month, day) := civilFromDays days
  if 1 ≤ year ∧ year ≤ 9999 then
    some { year := year.toNat, month, day, hour := rest / 3600000000
           minute := rest / 60000000 % 60, second := rest / 1000000 % 60
           micro := rest % 1000000, offset := none }
  else none

def isValid (m : Moment) : Bool :=
  1 ≤ m.year && m.year ≤ 9999 && 1 ≤ m.month && m.month ≤ 12 && 1 ≤ m.day &&
    m.day ≤ daysInMonth m.year m.month && m.hour < 24 && m.minute < 60 && m.second < 60 &&
    m.micro < 1000000

/-- The first moment there is. -/
def earliest : Moment := ⟨1, 1, 1, 0, 0, 0, 0, none⟩

/-- The last moment there is. -/
def latest : Moment := ⟨9999, 12, 31, 23, 59, 59, 999999, none⟩

/-- The same clock time, read as universal time. -/
def atUniversal (m : Moment) : Moment := { m with offset := some 0 }

/-! ### Equality and order -/

/-- Equal as moments: a naive one never equals an aware one. -/
def same (a b : Moment) : Bool :=
  a.offset.isSome == b.offset.isSome && a.instant == b.instant

/-- Earlier than; undefined between a naive and an aware moment. -/
def before? (a b : Moment) : Option Bool :=
  if a.offset.isSome == b.offset.isSome then some (a.instant < b.instant) else none

/-! ### Text -/

/-- `n` in decimal, padded with zeros to `width`. -/
def padded (width n : Nat) : List Char :=
  let ds := Nat.toDigits 10 n
  List.replicate (width - ds.length) '0' ++ ds

/-- An offset as a signed clock time; seconds only if there are some. -/
def offsetText (seconds : Int) : List Char :=
  let n := seconds.natAbs
  (if seconds < 0 then '-' else '+') :: padded 2 (n / 3600) ++ ':' :: padded 2 (n / 60 % 60) ++
    (if n % 60 = 0 then [] else ':' :: padded 2 (n % 60))

/-- Date and time with `sep` between them; the fraction only if there is one. -/
def textWith (sep : Char) (m : Moment) : String :=
  String.ofList <|
    padded 4 m.year ++ '-' :: padded 2 m.month ++ '-' :: padded 2 m.day ++
    sep :: padded 2 m.hour ++ ':' :: padded 2 m.minute ++ ':' :: padded 2 m.second ++
    (if m.micro = 0 then [] else '.' :: padded 6 m.micro) ++
    (match m.offset with | none => [] | some s => offsetText s)

def isoText (m : Moment) : String := m.textWith 'T'

/-- Reads a fixed number of digits. -/
def takeNat? (width : Nat) (cs : List Char) : Option (Nat × List Char) :=
  let ds := cs.take width
  if ds.length = width ∧ ds.all Char.isDigit then some (Text.digitsValue ds, cs.drop width)
  else none

/-- Reads the given character. -/
def takeChar? (c : Char) : List Char → Option (List Char)
  | d :: cs => if c = d then some cs else none
  | [] => none

/-- Reads `YYYY-MM-DDTHH:MM:SS`. -/
def takeClock? (cs : List Char) : Option (Moment × List Char) := do
  let (year, cs) ← takeNat? 4 cs
  let cs ← takeChar? '-' cs
  let (month, cs) ← takeNat? 2 cs
  let cs ← takeChar? '-' cs
  let (day, cs) ← takeNat? 2 cs
  let cs ← takeChar? 'T' cs
  let (hour, cs) ← takeNat? 2 cs
  let cs ← takeChar? ':' cs
  let (minute, cs) ← takeNat? 2 cs
  let cs ← takeChar? ':' cs
  let (second, cs) ← takeNat? 2 cs
  pure ({ year, month, day, hour, minute, second, micro := 0, offset := none }, cs)

/-- Reads a fraction of a second, if there is one, in microseconds; further digits are cut off. -/
def takeFraction? : List Char → Option (Nat × List Char)
  | '.' :: cs =>
    let ds := cs.takeWhile Char.isDigit
    if ds.isEmpty then none
    else
      let six := ds.take 6
      some (Text.digitsValue (six ++ List.replicate (6 - six.length) '0'),
        cs.dropWhile Char.isDigit)
  | cs => some (0, cs)

/-- Reads the written form of a moment. -/
def ofIso? (s : String) : Option Moment := do
  let (m, cs) ← takeClock? s.toList
  let (micro, cs) ← takeFraction? cs
  let m := { m with micro }
  let signed (negative : Bool) (cs : List Char) : Option Int := do
    let (hours, cs) ← takeNat? 2 cs
    let cs ← takeChar? ':' cs
    let (minutes, cs) ← takeNat? 2 cs
    let seconds ← match cs with
      | [] => some 0
      | cs => do
        let cs ← takeChar? ':' cs
        let (seconds, _) ← takeNat? 2 cs
        pure seconds
    let total : Int := hours * 3600 + minutes * 60 + seconds
    pure (if negative then -total else total)
  match cs with
  | [] => some m
  | 'Z' :: [] => some { m with offset := some 0 }
  | '+' :: cs => (signed false cs).map fun s => { m with offset := some s }
  | '-' :: cs => (signed true cs).map fun s => { m with offset := some s }
  | _ => none

/-- The greatest number of days in a length of time, in either direction. -/
def greatestDays : Int := 999999999

/-- Whether a length of time in microseconds is not too long. -/
def isDuration (micros : Int) : Bool :=
  -greatestDays ≤ Int.fdiv micros 86400000000 && Int.fdiv micros 86400000000 ≤ greatestDays

/-- A length of time in microseconds as days, seconds of a day and microseconds of a second; only
    the days are negative. -/
def splitDuration (micros : Int) : Int × Nat × Nat :=
  let days := Int.fdiv micros 86400000000
  let rest := (micros - days * 86400000000).toNat
  (days, rest / 1000000, rest % 1000000)

/-- The form of a length of time that is shown in messages: its parts that are not zero. -/
def durationShown (micros : Int) : String :=
  let (days, seconds, rest) := splitDuration micros
  let parts := (if days = 0 then [] else ["days=" ++ toString days]) ++
    (if seconds = 0 then [] else ["seconds=" ++ toString seconds]) ++
    (if rest = 0 then [] else ["microseconds=" ++ toString rest])
  "datetime.timedelta(" ++ (if parts.isEmpty then "0" else ", ".intercalate parts) ++ ")"

/-- A length of time as days and a clock time. -/
def durationText (micros : Int) : String :=
  let (days, seconds, rest) := splitDuration micros
  let dayPart :=
    if days = 0 then ""
    else toString days ++ (if days.natAbs = 1 then " day, " else " days, ")
  dayPart ++ toString (seconds / 3600) ++ String.ofList (':' :: padded 2 (seconds / 60 % 60) ++
    ':' :: padded 2 (seconds % 60) ++ (if rest = 0 then [] else '.' :: padded 6 rest))

/-- The form of a distance from universal time that is shown in messages. -/
def zoneShown (seconds : Int) : String :=
  if seconds = 0 then "datetime.timezone.utc"
  else "datetime.timezone(" ++ durationShown (seconds * 1000000) ++ ")"

/-- The name of a distance from universal time. -/
def zoneText (seconds : Int) : String :=
  if seconds = 0 then "UTC" else "UTC" ++ String.ofList (offsetText seconds)

/-- The moment so many microseconds later, if there is one. -/
def later? (m : Moment) (micros : Int) : Option Moment :=
  (ofMicros? (m.clockMicros + micros)).map fun r => { r with offset := m.offset }

/-- The form shown in messages: the fields of the moment, without trailing zero seconds. -/
def shown (m : Moment) : String :=
  let tail := if m.micro ≠ 0 then [m.second, m.micro] else if m.second ≠ 0 then [m.second] else []
  let fields := ([m.year, m.month, m.day, m.hour, m.minute] ++ tail).map toString
  let zone := match m.offset with
    | none => ""
    | some s => ", tzinfo=" ++ zoneShown s
  "datetime.datetime(" ++ ", ".intercalate fields ++ zone ++ ")"

theorem atUniversal_clockMicros (m : Moment) : m.atUniversal.clockMicros = m.clockMicros := rfl

end Moment

end LinkedDocs
