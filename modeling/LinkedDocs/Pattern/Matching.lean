import LinkedDocs.Pattern.Basic
import LinkedDocs.Text.Blank
import LinkedDocs.Text.Case
import LinkedDocs.Text.Digit
import LinkedDocs.Text.Letter

/-! Searching a text for a pattern.

    A match that starts at some place of the text can end at several others. `ends` lists them in
    the order in which they are tried, so that a part that keeps to its first match takes the first
    of them; nothing else depends on the order. -/

namespace LinkedDocs.Pattern

/-- A place in a text: what comes before it, nearest first, what follows, and the texts of the
    groups that were passed. -/
structure Place where
  before : List Char
  rest : List Char
  captures : List (Nat × List Char)
  deriving DecidableEq

namespace Place

/-- The place behind the next character, if that passes a test. -/
def step (p : Place) (test : Char → Bool) : List Place :=
  match p.rest with
  | c :: cs => if test c then [{ p with before := c :: p.before, rest := cs }] else []
  | [] => []

/-- The place behind a given text. -/
def pass (same : Char → Char → Bool) (p : Place) : List Char → List Place
  | [] => [p]
  | c :: cs => (p.step (same c)).flatMap fun q => pass same q cs

/-- The place so many characters before. -/
def back? (p : Place) : Nat → Option Place
  | 0 => some p
  | n + 1 => match p.before with
    | c :: cs => back? { p with before := cs, rest := c :: p.rest } n
    | [] => none

/-- Keeps the text between an earlier place and this one as that of a group. -/
def keep (p start : Place) (group : Nat) : Place :=
  let text := start.rest.take (start.rest.length - p.rest.length)
  { p with captures := (group, text) :: p.captures.filter (·.1 ≠ group) }

/-- Whether the place lies behind another one. -/
def isBehind (p q : Place) : Bool := p.rest.length < q.rest.length

end Place

/-! ### Characters -/

def isAscii (c : Char) : Bool := c.toNat < 128

/-- Whether a character belongs to a class; the classes with a name know all scripts or ASCII
    only. -/
def CharClass.holds (ascii : Bool) (c : Char) : CharClass → Bool
  | .range low high => low ≤ c && c ≤ high
  | .digit negated => (Text.isDigit c && (!ascii || isAscii c)) != negated
  | .word negated => (Text.isWordChar c && (!ascii || isAscii c)) != negated
  | .blank negated =>
    (if ascii then c == ' ' || ('\t' ≤ c && c ≤ '\x0d') else Text.isBlank c) != negated

/-- The lower case of an ASCII letter. -/
def asciiLower (c : Char) : Char := if isAscii c then Text.lower c else c

/-- Whether a class has a letter of either case. Characters beyond the first plane count as such if
    they stand beside others. -/
def CharClass.isCased (ascii : Bool) : CharClass → Bool
  | .range low high =>
    high.toNat > 0xffff || (if ascii then asciiMeets low high else Text.meetsCased low high)
  | _ => false
where
  asciiMeets (low high : Char) : Bool :=
    (low ≤ 'Z' && 'A' ≤ high) || (low ≤ 'z' && 'a' ≤ high)

/-- Whether a class has a character that goes into the given lower case letter, or into one with the
    same upper case. Beyond the first plane a single character stands for itself only, and a range
    for the characters with their upper case in it. -/
def CharClass.holdsFolded (ascii : Bool) (c : Char) : CharClass → Bool
  | .range low high =>
    let within (d : Char) : Bool := low ≤ d && d ≤ high
    if high.toNat > 0xffff && (within c || (low ≠ high && (Text.upper c).any within)) then true
    else if ascii then within c || ('a' ≤ c && c ≤ 'z' && within (Char.ofNat (c.toNat - 32)))
    else if c.toNat > 0xffff then within c
    else (c :: Text.matesOf c).any fun d => (Text.lowerOrigins d).any within
  | k => k.holds ascii c

/-- Whether a single character is another one without regard to case. -/
def sameFolded (ascii : Bool) (c d : Char) : Bool :=
  if ascii then asciiLower c == asciiLower d
  else if !Text.isCased d then c == d
  else
    let e := Text.lower d
    Text.lower c == e || Text.lower c ∈ Text.matesOf e

/-- Whether a character belongs to one of the classes. -/
def isMember (flags : Nat) (classes : List CharClass) (c : Char) : Bool :=
  let ascii := hasFlag flags .ascii
  if !hasFlag flags .ignoreCase then classes.any (·.holds ascii c)
  else
    match classes with
    | [.range low high] =>
      if low = high then sameFolded ascii c low else anyFolded ascii
    | _ => anyFolded ascii
where
  anyFolded (ascii : Bool) : Bool :=
    if classes.any (·.isCased ascii) then
      classes.any (·.holdsFolded ascii (if ascii then asciiLower c else Text.lower c))
    else classes.any (·.holds ascii c)

/-- Whether a character repeats one of a group. -/
def repeatsChar (flags : Nat) (c d : Char) : Bool :=
  if !hasFlag flags .ignoreCase then c == d
  else if hasFlag flags .ascii then asciiLower c == asciiLower d
  else Text.lower c == Text.lower d

/-! ### Places -/

def isWordAt (flags : Nat) (c : Option Char) : Bool :=
  (c.map fun c => CharClass.holds (hasFlag flags .ascii) c (.word false)).getD false

def atWordEdge (flags : Nat) (p : Place) : Bool :=
  isWordAt flags p.before.head? != isWordAt flags p.rest.head?

/-- Whether a condition holds at a place. An empty text has no place within a word. -/
def Anchor.holds (flags : Nat) (p : Place) : Anchor → Bool
  | .lineStart =>
    p.before.isEmpty || (hasFlag flags .multiLine && p.before.head? == some '\n')
  | .lineEnd =>
    p.rest.isEmpty || p.rest == ['\n'] ||
      (hasFlag flags .multiLine && p.rest.head? == some '\n')
  | .textStart => p.before.isEmpty
  | .textEnd => p.rest.isEmpty
  | .wordEdge => atWordEdge flags p
  | .noWordEdge => !(p.before.isEmpty && p.rest.isEmpty) && !atWordEdge flags p

/-! ### Repetition -/

/-- The list without repetitions; the first of equal items stays. -/
def distinct (ps : List Place) : List Place :=
  match ps with
  | [] | [_] => ps
  | ps => (ps.foldl (fun acc p => if p ∈ acc then acc else p :: acc) []).reverse

/-- The places reached by applying a step exactly `n` times. -/
def exactly (step : Place → List Place) : Nat → List Place → List Place
  | 0, ps => ps
  | n + 1, ps =>
    let next := distinct (ps.flatMap step)
    if next.isEmpty || next = ps then next else exactly step n next

/-- The places reached by applying a step at most `n` times. A step that does not move ends the
    repetition. -/
def atMost (greedy : Bool) (step : Place → List Place) : Nat → Place → List Place
  | 0, p => [p]
  | n + 1, p =>
    let further := (step p).flatMap fun q =>
      if q.isBehind p then atMost greedy step n q else [q]
    distinct (if greedy then further ++ [p] else p :: further)

/-- A walk through the places that a step leads to: the ones that were entered, and the ones that
    are settled, last first. -/
structure Walk where
  entered : List Place
  settled : List Place

/-- Walks on from the given places; each is entered once. A greedy walk settles a place behind those
    it leads to. -/
def walk (greedy : Bool) (step : Place → List Place) : (fuel : Nat) → List Place → Walk → Walk
  | 0, _, w => w
  | _, [], w => w
  | fuel + 1, p :: ps, w =>
    if p ∈ w.entered then walk greedy step fuel ps w
    else
      let w := { w with entered := p :: w.entered }
      let w := if greedy then w else { w with settled := p :: w.settled }
      let w := walk greedy step fuel (step p) w
      let w := if greedy then { w with settled := p :: w.settled } else w
      walk greedy step fuel ps w

/-- The places reached by applying a step any number of times. -/
def closure (greedy : Bool) (step : Place → List Place) (p : Place) : List Place :=
  let n := p.rest.length + 2
  (walk greedy step (n * n) [p] ⟨[], []⟩).settled.reverse

/-- The place reached by applying a step `low` times and then as often as it goes, at most `high`
    times in all, keeping to the first outcome of each. -/
def possessive (step : Place → List Place) : (fuel : Nat) → (low : Nat) → (high : Option Nat) →
    Place → List Place
  | 0, _, _, _ => []
  | fuel + 1, low, high, p =>
    if high = some 0 then [p]
    else
      match step p with
      | [] => if low = 0 then [p] else []
      | q :: _ =>
        if q.isBehind p then possessive step fuel (low - 1) (high.map (· - 1)) q else [q]

/-- The places reached by a repetition. -/
def repetition (greed : Greed) (step : Place → List Place) (low : Nat) (high : Option Nat)
    (p : Place) : List Place :=
  match greed with
  | .possessive => possessive step (p.rest.length + 2) low high p
  | greed =>
    let greedy := greed == .greedy
    distinct ((exactly step low [p]).flatMap fun q =>
      match high with
      | some h => atMost greedy step (min (h - low) (q.rest.length + 1)) q
      | none => closure greedy step q)

/-! ### Matches -/

/-- The places where a match that starts at the given place can end. -/
def ends (flags : Nat) : Tree → Place → List Place
  | .empty, p => [p]
  | .chars negated classes, p => p.step fun c => isMember flags classes c != negated
  | .anyChar, p => p.step fun c => hasFlag flags .dotAll || c != '\n'
  | .anchor a, p => if a.holds flags p then [p] else []
  | .seq s t, p => distinct ((ends flags s p).flatMap (ends flags t))
  | .alt s t, p => distinct (ends flags s p ++ ends flags t p)
  | .times t low high greed, p => repetition greed (ends flags t) low high p
  | .group n t, p => (ends flags t p).map fun q => q.keep p n
  | .scoped added removed t, p =>
    let alphabet := bits alphabetFlags
    let kept := if added &&& alphabet != 0 then withoutFlags flags alphabet else flags
    ends (withoutFlags (kept ||| added) removed) t p
  | .atomic t, p => (ends flags t p).take 1
  | .look behind negated t, p =>
    let start := match behind with
      | none => some p
      | some n => p.back? n
    match (start.map (ends flags t)).getD [] with
    | [] => if negated then [p] else []
    | q :: _ => if negated then [] else [{ p with captures := q.captures }]
  | .again n, p =>
    match p.captures.lookup n with
    | some cs => p.pass (repeatsChar flags) cs
    | none => []
  | .conditional n s t, p =>
    if (p.captures.lookup n).isSome then ends flags s p else ends flags t p
where
  bits (fs : List Flag) : Nat := fs.foldl (fun n f => n ||| f.bit) 0

/-- Whether a match starts at the place or at a later one. -/
def searchFrom (flags : Nat) (t : Tree) (before : List Char) : List Char → Bool
  | [] => !(ends flags t ⟨before, [], []⟩).isEmpty
  | c :: cs =>
    !(ends flags t ⟨before, c :: cs, []⟩).isEmpty || searchFrom flags t (c :: before) cs

end LinkedDocs.Pattern

namespace LinkedDocs

/-- Whether some part of the text matches. -/
def Pattern.search (r : Pattern) (text : String) : Bool :=
  searchFrom r.flags r.tree [] text.toList

end LinkedDocs
