import LinkedDocs.Pattern.Basic
import LinkedDocs.Text.Digit
import LinkedDocs.Text.Letter
import LinkedDocs.Text.Quoted

/-! Reading regular expressions.

    A text is read from left to right, the innermost group first. The parts of a sequence are kept
    in reverse until it ends, because a quantifier takes back the last of them. Flags that a pattern
    sets for itself stand at its start. -/

namespace LinkedDocs.Pattern

/-- Why a text is no pattern. -/
inductive Fault where
  | malformed
  /-- A number of repetitions beyond all bounds. -/
  | tooManyTimes
  /-- A number of repetitions with too many digits to be read. -/
  | unreadable
  /-- Flags that exclude each other. -/
  | flags
  deriving DecidableEq, Repr

/-- How many characters a part can match. -/
structure Width where
  least : Nat
  most : Option Nat
  deriving DecidableEq, Repr

structure Reader where
  rest : List Char
  flags : Nat
  /-- How many groups were opened. -/
  groups : Nat
  names : List (String × Nat)
  /-- The groups that were closed, with their widths. -/
  closed : List (Nat × Width)
  /-- Within a condition on what comes before: how many groups were open at its start. -/
  behind : Option Nat
  /-- The groups that conditional parts ask for. -/
  asked : List Nat
  /-- Whether some condition on what comes before has no fixed width. -/
  isVariable : Bool

abbrev Read := StateT Reader (Except Fault)

def malformed {α : Type} : Read α := throw .malformed

/-! ### Characters -/

def peek : Read (Option Char) := do
  let s ← get
  pure s.rest.head?

def skip (n : Nat) : Read Unit := modify fun s => { s with rest := s.rest.drop n }

/-- The next character; there has to be one. -/
def next : Read Char := do
  match ← peek with
  | some c => do
    skip 1
    pure c
  | none => malformed

/-- Reads the given character, if it is next. -/
def accept (c : Char) : Read Bool := do
  if (← peek) = some c then
    skip 1
    pure true
  else pure false

def expect (c : Char) : Read Unit := do
  if ← accept c then pure () else malformed

/-- Reads characters of a kind, at most `limit` of them. -/
def readSome (limit : Nat) (p : Char → Bool) : Read (List Char) := do
  let s ← get
  let cs := (s.rest.take limit).takeWhile p
  skip cs.length
  pure cs

/-- Reads all characters of a kind. -/
def readAll (p : Char → Bool) : Read (List Char) := do
  let s ← get
  readSome s.rest.length p

/-- Reads a name and the character that ends it. -/
def nameUntil (terminator : Char) : Read (List Char) := do
  let name ← readAll (· ≠ terminator)
  expect terminator
  if name.isEmpty then malformed else pure name

/-! ### Escapes -/

/-- Characters with a meaning behind a backslash that stand for one character. -/
def controlEscapes : List (Char × Char) :=
  [('n', '\n'), ('t', '\t'), ('r', '\r'), ('f', '\x0c'), ('v', '\x0b'), ('a', '\x07')]

/-- A class of characters named by a letter behind a backslash. -/
def classEscape? (c : Char) : Option CharClass :=
  match c with
  | 'd' => some (.digit false)
  | 'D' => some (.digit true)
  | 'w' => some (.word false)
  | 'W' => some (.word true)
  | 's' => some (.blank false)
  | 'S' => some (.blank true)
  | _ => none

/-- A condition named by a letter behind a backslash. -/
def anchorEscape? (c : Char) : Option Anchor :=
  match c with
  | 'A' => some .textStart
  | 'Z' => some .textEnd
  | 'b' => some .wordEdge
  | 'B' => some .noWordEdge
  | _ => none

/-- The number of hexadecimal digits behind the letter of a code point. -/
def codeLength? (c : Char) : Option Nat :=
  match c with
  | 'x' => some 2
  | 'u' => some 4
  | 'U' => some 8
  | _ => none

def isOctal (c : Char) : Bool := '0' ≤ c && c ≤ '7'

def octalValue (cs : List Char) : Nat := cs.foldl (fun n c => 8 * n + (c.toNat - 48)) 0

/-- The classes of one code point; half of a pair is no character. -/
def codePoint (n : Nat) : List CharClass :=
  if h : n.isValidChar then [.range (Char.ofNatAux n h) (Char.ofNatAux n h)] else []

def single (c : Char) : Tree := .chars false [.range c c]

/-- Reads the hexadecimal digits of a code point. -/
def codeEscape (length : Nat) : Read (List CharClass) := do
  let cs ← readSome length fun c => (Text.hexValue? c).isSome
  let n := Text.hexNumber cs
  if cs.length = length ∧ n < 0x110000 then pure (codePoint n) else malformed

/-- Reads an octal number that began with the given digit. -/
def octalEscape (c : Char) : Read (List CharClass) := do
  let cs ← readSome 2 isOctal
  let n := octalValue (c :: cs)
  if n > 255 then malformed else pure (codePoint n)

/-- The character that an escaped one stands for; other letters have no meaning. -/
def literalEscape (c : Char) : Read (List CharClass) :=
  match controlEscapes.lookup c with
  | some d => pure [.range d d]
  | none => if c.isAlpha then malformed else pure [.range c c]

/-- A group can be referred to when it is closed, and from a condition on what comes before only if
    it was closed outside. -/
def checkReference (number : Nat) : Read Unit := do
  let s ← get
  if !(s.closed.lookup number).isSome then malformed
  else if (s.behind.map (decide <| · ≤ number)).getD false then malformed
  else pure ()

/-- A reference to a group. -/
def reference (number : Nat) : Read Tree := do
  checkReference number
  pure (.again number)

/-- Digits behind a backslash: three octal ones are a character, else they number a group. -/
def numberEscape (c : Char) : Read Tree := do
  let value (cs : List Char) : Nat := Text.digitsValue cs
  match ← readSome 1 Char.isDigit with
  | [d] =>
    if isOctal c && isOctal d then
      match ← readSome 1 isOctal with
      | [e] =>
        let n := octalValue [c, d, e]
        if n > 255 then malformed else pure (.chars false (codePoint n))
      | _ => reference (value [c, d])
    else reference (value [c, d])
  | _ => reference (value [c])

/-- Reads what follows a backslash outside of brackets. -/
def escape : Read Tree := do
  let c ← next
  match anchorEscape? c, classEscape? c, codeLength? c with
  | some a, _, _ => pure (.anchor a)
  | none, some k, _ => pure (.chars false [k])
  | none, none, some n => do
    let ks ← codeEscape n
    pure (.chars false ks)
  | none, none, none =>
    if c = '0' then do
      let ks ← octalEscape c
      pure (.chars false ks)
    else if c.isDigit then numberEscape c
    else do
      let ks ← literalEscape c
      pure (.chars false ks)

/-- Reads what follows a backslash in brackets. -/
def bracketEscape : Read (List CharClass) := do
  let c ← next
  match classEscape? c, codeLength? c with
  | some k, _ => pure [k]
  | none, some n => codeEscape n
  | none, none =>
    if c = 'b' then pure [.range '\x08' '\x08']
    else if isOctal c then octalEscape c
    else if c.isDigit then malformed
    else literalEscape c

/-! ### Brackets -/

/-- Reads a character or a class in brackets. -/
def bracketItem (c : Char) : Read (List CharClass) :=
  if c = '\\' then bracketEscape else pure [.range c c]

/-- A range between two single characters in ascending order. -/
def rangeBetween (low high : List CharClass) : Read (List CharClass) :=
  match low, high with
  | [.range a b], [.range c d] =>
    if a = b ∧ c = d ∧ a ≤ d then pure [.range a d] else malformed
  | _, _ => malformed

/-- Reads the classes in brackets up to the closing one, which may stand first as an ordinary
    character. -/
def bracket : (fuel : Nat) → (read : List CharClass) → (isFirst : Bool) → Read (List CharClass)
  | 0, _, _ => malformed
  | fuel + 1, done, isFirst => do
    let c ← next
    if c = ']' ∧ !isFirst then pure done
    else
      let item ← bracketItem c
      if ← accept '-' then
        let d ← next
        if d = ']' then pure (done ++ item ++ [.range '-' '-'])
        else
          let last ← bracketItem d
          let range ← rangeBetween item last
          bracket fuel (done ++ range) false
      else bracket fuel (done ++ item) false

/-- Reads a class in brackets, of which the opening one was read. -/
def bracketed : Read Tree := do
  let negated ← accept '^'
  let s ← get
  let classes ← bracket (s.rest.length + 1) [] true
  pure (.chars negated classes.eraseDups)

/-! ### Quantifiers -/

/-- Numbers of repetitions stay below this one. -/
def timesLimit : Nat := 4294967295

/-- A bound of a quantifier; none if there are no digits. -/
def bound? (cs : List Char) : Read (Option Nat) :=
  if cs.isEmpty then pure none
  else
    let n := Text.digitsValue cs
    if !Text.isReadable cs then throw .unreadable
    else if n ≥ timesLimit then throw .tooManyTimes
    else pure (some n)

/-- The bounds of a quantifier that began with the given character; braces that hold no bounds are
    ordinary characters. -/
def bounds? (c : Char) : Read (Option (Nat × Option Nat)) :=
  match c with
  | '*' => pure (some (0, none))
  | '+' => pure (some (1, none))
  | '?' => pure (some (0, some 1))
  | _ => do
    let start ← get
    if start.rest.head? = some '}' then pure none
    else
      let low ← readAll Char.isDigit
      let both ← accept ','
      let high ← if both then readAll Char.isDigit else pure low
      if ← accept '}' then
        let low := (← bound? low).getD 0
        let high ← bound? high
        if (high.map (decide <| · < low)).getD false then malformed else pure (some (low, high))
      else
        set start
        pure none

/-- Whether a part can be repeated: a condition cannot, and a repetition not again. -/
def isRepeatable : Tree → Bool
  | .anchor _ | .times .. => false
  | _ => true

/-- The mark behind a quantifier. -/
def greed : Read Greed := do
  match ← peek with
  | some '?' => do
    skip 1
    pure .reluctant
  | some '+' => do
    skip 1
    pure .possessive
  | _ => pure .greedy

/-- The last part of a sequence, repeated. -/
def repeatLast (low : Nat) (high : Option Nat) (done : List Tree) : Read (List Tree) :=
  match done with
  | [] => malformed
  | last :: done =>
    if !isRepeatable last then malformed
    else do
      let greed ← greed
      pure (.times last low high greed :: done)

/-! ### Widths -/

def Width.add (a b : Width) : Width :=
  ⟨a.least + b.least, a.most.bind fun m => b.most.map (m + ·)⟩

def Width.either (a b : Width) : Width :=
  ⟨min a.least b.least, a.most.bind fun m => b.most.map (max m ·)⟩

def Width.times (a : Width) (low : Nat) (high : Option Nat) : Width :=
  ⟨a.least * low, if a.most = some 0 then some 0 else a.most.bind fun m => high.map (m * ·)⟩

/-- The width of a part; `closed` gives the widths of groups. -/
def widthOf (closed : List (Nat × Width)) : Tree → Width
  | .empty | .anchor _ | .look .. => ⟨0, some 0⟩
  | .chars .. | .anyChar => ⟨1, some 1⟩
  | .seq a b => (widthOf closed a).add (widthOf closed b)
  | .alt a b => (widthOf closed a).either (widthOf closed b)
  | .times a low high _ => (widthOf closed a).times low high
  | .group _ a | .scoped _ _ a | .atomic a => widthOf closed a
  | .again n => (closed.lookup n).getD ⟨0, some 0⟩
  | .conditional _ a b => (widthOf closed a).either (widthOf closed b)

/-! ### Groups -/

/-- The flag of a letter. -/
def flagOf? (c : Char) : Option Flag :=
  match c with
  | 'i' => some .ignoreCase
  | 'L' => some .locale
  | 'm' => some .multiLine
  | 's' => some .dotAll
  | 'x' => some .verbose
  | 'a' => some .ascii
  | 't' => some .template
  | 'u' => some .unicode
  | _ => none

/-- The flags that concern the whole pattern only. -/
def isGlobal (f : Flag) : Bool := f == .debug || f == .template

/-- Reads letters of flags up to a character that is none. -/
def flagLetters : (fuel : Nat) → Read (List Flag)
  | 0 => malformed
  | fuel + 1 => do
    match (← peek).bind flagOf? with
    | none => pure []
    | some f => do
      skip 1
      let fs ← flagLetters fuel
      pure (f :: fs)

def bitsOf (fs : List Flag) : Nat := fs.foldl (fun n f => n ||| f.bit) 0

/-- What a group of flags says: flags of the whole pattern, or ones that are added and removed
    within a part. -/
inductive FlagGroup where
  | global (added : Nat)
  | scoped (added removed : Nat)

/-- Reads a group of flags up to its end, or up to the part it is about. -/
def flagGroup : Read FlagGroup := do
  let s ← get
  let added ← flagLetters (s.rest.length + 1)
  let alphabets := added.filter (· ∈ alphabetFlags)
  if .locale ∈ added ∨ alphabets.eraseDups.length > 1 then malformed
  else
    match ← next with
    | ')' => if added.isEmpty then malformed else pure (.global (bitsOf added))
    | ':' =>
      if added.isEmpty || added.any isGlobal then malformed
      else pure (.scoped (bitsOf added) 0)
    | '-' => do
      let s ← get
      let removed ← flagLetters (s.rest.length + 1)
      expect ':'
      if removed.isEmpty || removed.any (· ∈ alphabetFlags) || (added ++ removed).any isGlobal ||
        removed.any (· ∈ added) then malformed
      else pure (.scoped (bitsOf added) (bitsOf removed))
    | _ => malformed

/-- Whether a text can be the name of a group. -/
def isGroupName (cs : List Char) : Bool :=
  cs.all Text.isWordChar && !(cs.head?.map Text.isDigit).getD true

/-- Reads up to the end of a comment. -/
def skipComment : (fuel : Nat) → Read Unit
  | 0 => malformed
  | fuel + 1 => do
    let c ← next
    if c = ')' then pure ()
    else do
      if c = '\\' then skip 1
      skipComment fuel

/-- Reads up to the end of the line. -/
def skipLine : (fuel : Nat) → Read Unit
  | 0 => malformed
  | fuel + 1 => do
    match ← peek with
    | none => pure ()
    | some c => do
      skip (if c = '\\' then 2 else 1)
      if c = '\n' then pure () else skipLine fuel

/-- Opens a group and gives its number. -/
def openGroup (name : Option String) : Read Nat := do
  let s ← get
  let number := s.groups + 1
  match name with
  | none => do
    set { s with groups := number }
    pure number
  | some n =>
    if (s.names.lookup n).isSome then malformed
    else do
      set { s with groups := number, names := s.names ++ [(n, number)] }
      pure number

def closeGroup (number : Nat) (body : Tree) : Read Unit :=
  modify fun s => { s with closed := (number, widthOf s.closed body) :: s.closed }

/-- The number of the group that a conditional part asks for, by name or number. -/
def askedGroup (name : List Char) : Read Nat := do
  let s ← get
  let number ←
    if isGroupName name then
      match s.names.lookup (String.ofList name) with
      | some n => pure n
      | none => malformed
    else if name.all Text.isDigit ∧ Text.digitsValue name > 0 then do
      let n := Text.digitsValue name
      set { s with asked := n :: s.asked }
      pure n
    else malformed
  if s.behind.isSome then checkReference number
  pure number

/-- What a parenthesis opened. -/
inductive Opened where
  | part (t : Tree)
  /-- Flags of the whole pattern. -/
  | flags (added : Nat)
  | comment

/-! ### Sequences and alternatives -/

/-- The parts of a sequence, from the last to the first, as one. -/
def sequenceOf (done : List Tree) : Tree :=
  match done with
  | [] => .empty
  | t :: ts => ts.foldl (fun acc u => .seq u acc) t

/-- The classes of a part that is one character out of some. -/
def charsOf? : Tree → Option (List CharClass)
  | .chars false ks => some ks
  | _ => none

/-- Alternatives from the first to the last. -/
def altOf (first : Tree) : List Tree → Tree
  | [] => first
  | t :: ts => .alt first (altOf t ts)

/-- Alternatives as one part. Single characters are one class. -/
def alternativesOf (first : Tree) (others : List Tree) : Tree :=
  match others, (first :: others).mapM charsOf? with
  | _ :: _, some kss => .chars false kss.flatten.eraseDups
  | others, _ => altOf first others

def isPatternBlank (c : Char) : Bool := c ∈ [' ', '\t', '\n', '\r', '\x0b', '\x0c']

mutual

/-- Reads alternatives up to a closing parenthesis or the end. Those of the whole pattern are
    `outer`. -/
def alternatives : (fuel : Nat) → (verbose outer : Bool) → Read Tree
  | 0, _, _ => malformed
  | fuel + 1, verbose, outer => do
    let first ← sequence fuel verbose outer []
    let others ← moreAlternatives fuel verbose outer
    pure (alternativesOf first others)

def moreAlternatives : (fuel : Nat) → (verbose outer : Bool) → Read (List Tree)
  | 0, _, _ => malformed
  | fuel + 1, verbose, outer => do
    if ← accept '|' then
      let s ← get
      let verbose := if outer then hasFlag s.flags .verbose else verbose
      let t ← sequence fuel verbose false []
      let ts ← moreAlternatives fuel verbose outer
      pure (t :: ts)
    else pure []

/-- Reads parts in a row behind the ones that are `done`. Flags of the whole pattern may stand at
    its `start` only. -/
def sequence : (fuel : Nat) → (verbose start : Bool) → (done : List Tree) → Read Tree
  | 0, _, _, _ => malformed
  | fuel + 1, verbose, start, done => do
    match ← peek with
    | none | some '|' | some ')' => pure (sequenceOf done)
    | some c => do
      skip 1
      if verbose && isPatternBlank c then sequence fuel verbose start done
      else if verbose && c = '#' then do
        skipLine (fuel + 1)
        sequence fuel verbose start done
      else
        match c with
        | '\\' => do
          let t ← escape
          sequence fuel verbose start (t :: done)
        | '[' => do
          let t ← bracketed
          sequence fuel verbose start (t :: done)
        | '.' => sequence fuel verbose start (.anyChar :: done)
        | '^' => sequence fuel verbose start (.anchor .lineStart :: done)
        | '$' => sequence fuel verbose start (.anchor .lineEnd :: done)
        | '(' => do
          match ← opened fuel verbose with
          | .part t => sequence fuel verbose start (t :: done)
          | .comment => sequence fuel verbose start done
          | .flags added =>
            if !(start && done.isEmpty) then malformed
            else do
              modify fun s => { s with flags := s.flags ||| added }
              let s ← get
              sequence fuel (hasFlag s.flags .verbose) start done
        | c =>
          if c ∈ ['*', '+', '?', '\x7b'] then do
            match ← bounds? c with
            | some (low, high) => do
              let done ← repeatLast low high done
              sequence fuel verbose start done
            | none => sequence fuel verbose start (single c :: done)
          else sequence fuel verbose start (single c :: done)

/-- Reads what an opening parenthesis begins. -/
def opened : (fuel : Nat) → (verbose : Bool) → Read Opened
  | 0, _ => malformed
  | fuel + 1, verbose => do
    if ← accept '?' then
      match ← peek with
      | some 'P' => do
        skip 1
        namedGroup fuel verbose
      | some ':' => do
        skip 1
        let t ← body fuel verbose
        pure (.part (.scoped 0 0 t))
      | some '#' => do
        skip 1
        skipComment (fuel + 1)
        pure .comment
      | some '=' | some '!' => do
        let c ← next
        let t ← body fuel verbose
        pure (.part (.look none (c = '!') t))
      | some '<' => do
        skip 1
        let c ← next
        if c = '=' ∨ c = '!' then lookBehind fuel verbose (c = '!') else malformed
      | some '(' => do
        skip 1
        conditional fuel verbose
      | some '>' => do
        skip 1
        let t ← body fuel verbose
        pure (.part (.atomic t))
      | _ => do
        match ← flagGroup with
        | .global added => pure (.flags added)
        | .scoped added removed => do
          let inner := (verbose || hasFlag added .verbose) && !hasFlag removed .verbose
          let t ← body fuel inner
          pure (.part (.scoped added removed t))
    else keptGroup fuel verbose none

/-- Reads a part up to the closing parenthesis. -/
def body : (fuel : Nat) → (verbose : Bool) → Read Tree
  | 0, _ => malformed
  | fuel + 1, verbose => do
    let t ← alternatives fuel verbose false
    expect ')'
    pure t

/-- Reads a group whose text is kept. -/
def keptGroup : (fuel : Nat) → (verbose : Bool) → (name : Option String) → Read Opened
  | 0, _, _ => malformed
  | fuel + 1, verbose, name => do
    let number ← openGroup name
    let t ← body fuel verbose
    closeGroup number t
    pure (.part (.group number t))

/-- Reads a group with a name, or a reference to one. -/
def namedGroup : (fuel : Nat) → (verbose : Bool) → Read Opened
  | 0, _ => malformed
  | fuel + 1, verbose => do
    if ← accept '<' then
      let name ← nameUntil '>'
      if isGroupName name then keptGroup fuel verbose (some (String.ofList name)) else malformed
    else do
      expect '='
      let name ← nameUntil ')'
      let s ← get
      match s.names.lookup (String.ofList name) with
      | some n => do
        let t ← reference n
        pure (.part t)
      | none => malformed

/-- Reads a condition on what comes before. -/
def lookBehind : (fuel : Nat) → (verbose negated : Bool) → Read Opened
  | 0, _, _ => malformed
  | fuel + 1, verbose, negated => do
    let s ← get
    set { s with behind := s.behind <|> some (s.groups + 1) }
    let t ← alternatives fuel verbose false
    modify fun r => { r with behind := s.behind }
    expect ')'
    let r ← get
    let w := widthOf r.closed t
    if w.most ≠ some w.least then set { r with isVariable := true }
    pure (.part (.look (some w.least) negated t))

/-- Reads a part that depends on a group. -/
def conditional : (fuel : Nat) → (verbose : Bool) → Read Opened
  | 0, _ => malformed
  | fuel + 1, verbose => do
    let name ← nameUntil ')'
    let number ← askedGroup name
    let yes ← sequence fuel verbose false []
    let no ← if ← accept '|' then sequence fuel verbose false [] else pure .empty
    expect ')'
    pure (.part (.conditional number yes no))

end

/-- The flags of a pattern in full: it is about one alphabet, and that of all scripts unless it says
    otherwise. -/
def settledFlags (flags : Nat) : Except Fault Nat :=
  if hasFlag flags .locale then throw .flags
  else if !hasFlag flags .ascii then pure (flags ||| Flag.unicode.bit)
  else if hasFlag flags .unicode then throw .flags
  else pure flags

end LinkedDocs.Pattern

namespace LinkedDocs

/-- Reads a pattern with the given flags. -/
def Pattern.read (source : String) (flags : Nat) : Except Pattern.Fault Pattern := do
  let cs := source.toList
  let start : Pattern.Reader := ⟨cs, flags, 0, [], [], none, [], false⟩
  let verbose := Pattern.hasFlag flags .verbose
  let (tree, s) ← (Pattern.alternatives (4 * cs.length + 8) verbose true).run start
  let flags ← Pattern.settledFlags s.flags
  if !s.rest.isEmpty || s.asked.any (decide <| s.groups < ·) || s.isVariable then throw .malformed
  else pure { source, flags, tree, groups := s.groups, names := s.names }

end LinkedDocs
