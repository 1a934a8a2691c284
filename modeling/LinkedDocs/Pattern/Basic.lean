/-! Regular expressions.

    A pattern is a text, its flags and the tree that the text spells. The tree has sequences and
    alternatives of two parts each, so that everything about it is a recursion on its parts. -/

namespace LinkedDocs

namespace Pattern

/-- How a pattern is to be taken. -/
inductive Flag where
  | template
  | ignoreCase
  | locale
  | multiLine
  | dotAll
  | unicode
  | verbose
  | debug
  | ascii
  deriving DecidableEq, Repr

/-- The bit that stands for a flag in the number of all flags. -/
def Flag.bit : Flag → Nat
  | .template => 1
  | .ignoreCase => 2
  | .locale => 4
  | .multiLine => 8
  | .dotAll => 16
  | .unicode => 32
  | .verbose => 64
  | .debug => 128
  | .ascii => 256

/-- Whether the number of all flags has a flag. -/
def hasFlag (flags : Nat) (f : Flag) : Bool := flags &&& f.bit != 0

/-- The flags that say which characters belong to a class; a pattern has one of them. -/
def alphabetFlags : List Flag := [.ascii, .locale, .unicode]

/-- Flags without some others. -/
def withoutFlags (flags removed : Nat) : Nat := flags ^^^ (flags &&& removed)

/-- A class of characters. -/
inductive CharClass where
  | range (low high : Char)
  | digit (negated : Bool)
  | word (negated : Bool)
  | blank (negated : Bool)
  deriving DecidableEq, Repr

/-- A condition on a place in the text. -/
inductive Anchor where
  | lineStart
  | lineEnd
  | textStart
  | textEnd
  | wordEdge
  | noWordEdge
  deriving DecidableEq, Repr

/-- Which number of repetitions is tried first; a possessive repetition keeps to it. -/
inductive Greed where
  | greedy
  | reluctant
  | possessive
  deriving DecidableEq, Repr

inductive Tree where
  | empty
  /-- One character that is in one of the classes, or in none. -/
  | chars (negated : Bool) (classes : List CharClass)
  /-- Any character, but none that ends a line unless lines do not count. -/
  | anyChar
  | anchor (a : Anchor)
  | seq (first second : Tree)
  | alt (left right : Tree)
  /-- At least `low` times, and at most `high` times if that is given. -/
  | times (body : Tree) (low : Nat) (high : Option Nat) (greed : Greed)
  /-- A group whose text is kept. -/
  | group (number : Nat) (body : Tree)
  /-- A part with flags of its own. -/
  | scoped (added removed : Nat) (body : Tree)
  /-- A part that keeps to its first match. -/
  | atomic (body : Tree)
  /-- A condition on what follows, or on so many characters that come before. -/
  | look (behind : Option Nat) (negated : Bool) (body : Tree)
  /-- The text of a group again. -/
  | again (number : Nat)
  /-- One part if a group has a text, else the other. -/
  | conditional (number : Nat) (yes no : Tree)
  deriving DecidableEq, Repr

end Pattern

structure Pattern where
  source : String
  flags : Nat
  tree : Pattern.Tree
  /-- How many groups keep their text. -/
  groups : Nat
  /-- The groups that have a name. -/
  names : List (String × Nat)
  deriving DecidableEq, Repr

end LinkedDocs
