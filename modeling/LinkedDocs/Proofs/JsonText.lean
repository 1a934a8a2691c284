import LinkedDocs.Proofs.Members
import LinkedDocs.Proofs.Scanning
import LinkedDocs.Proofs.Segments

/-! JSON texts and the values they denote.

    The grammar is the one of RFC 8259, with the words of a text kept apart from the blanks around
    them: a number has no zeros in front, a string stands in double quotes, and every value may be
    written in all the ways that the escapes and the blanks allow. A character beyond the basic
    plane is written as itself, since no escape stands for half of one.

    A value is decoded from the inside out: a document whose members are decoded is handed to a
    hook, which may fail or put another value in its place. But a text is read before anything is
    decoded, and an integer with too many digits cannot be read. -/

namespace LinkedDocs

open Scan
open Value (Entries)

/-- A JSON value. Names of members may repeat. -/
inductive Json where
  | null
  | bool (b : Bool)
  | int (n : Int)
  | real (x : Float)
  | text (s : String)
  | array (items : List Json)
  | object (members : List (String × Json))

namespace Json

/-! ### Numbers -/

/-- An integer has no zeros in front. -/
structure IsInteger (sign ds : List Char) : Prop extends IsNumeral sign ds where
  zero : ds.head? = some '0' → ds = ['0']

/-- One digit or more. -/
def IsDigits (ds : List Char) : Prop := ds ≠ [] ∧ ∀ c ∈ ds, c.isDigit = true

/-- A fraction, or nothing. -/
inductive IsFraction : List Char → Prop
  | nothing : IsFraction []
  | digits {ds : List Char} (h : IsDigits ds) : IsFraction ('.' :: ds)

/-- An exponent, or nothing. -/
inductive IsExponent : List Char → Prop
  | nothing : IsExponent []
  | digits {mark : Char} {sign ds : List Char} (hmark : mark = 'e' ∨ mark = 'E')
    (hsign : sign = [] ∨ sign = ['-'] ∨ sign = ['+']) (h : IsDigits ds) :
    IsExponent (mark :: (sign ++ ds))

/-- A number with a fraction, an exponent, or both. -/
inductive IsReal : List Char → Prop
  | mk {sign ds fraction exponent : List Char} (h : IsInteger sign ds) (hf : IsFraction fraction)
    (he : IsExponent exponent) (real : fraction ++ exponent ≠ []) :
    IsReal (sign ++ ds ++ (fraction ++ exponent))

/-! ### Strings -/

/-- The escapes of one letter, with the characters they stand for. -/
def shortEscapes : List (Char × Char) :=
  [('"', '"'), ('\\', '\\'), ('/', '/'), ('b', '\x08'), ('f', '\x0c'), ('n', '\n'), ('r', '\r'),
   ('t', '\t')]

/-- The ways to write a character between double quotes. -/
inductive Spelled : Char → List Char → Prop
  | plain {c : Char} (visible : 0x20 ≤ c.toNat) (quote : c ≠ '"') (backslash : c ≠ '\\') :
    Spelled c [c]
  | short {letter c : Char} (h : (letter, c) ∈ shortEscapes) : Spelled c ['\\', letter]
  | code {c x₁ x₂ x₃ x₄ : Char} (hex : ∀ x ∈ [x₁, x₂, x₃, x₄], (Text.hexValue? x).isSome)
    (value : Text.hexNumber [x₁, x₂, x₃, x₄] = c.toNat) : Spelled c ['\\', 'u', x₁, x₂, x₃, x₄]

/-- The ways to write a text between double quotes. -/
inductive SpelledAll : List Char → List Char → Prop
  | nil : SpelledAll [] []
  | cons {c : Char} {cs w ws : List Char} (h : Spelled c w) (hs : SpelledAll cs ws) :
    SpelledAll (c :: cs) (w ++ ws)

/-- The words of a string. -/
inductive WritesText : String → List Char → Prop
  | mk {s : String} {w : List Char} (h : SpelledAll s.toList w) : WritesText s ('"' :: (w ++ ['"']))

/-! ### Values -/

mutual

/-- The words that a value may be written as. -/
inductive Writes : Json → List (List Char) → Prop
  | null : Writes .null [['n', 'u', 'l', 'l']]
  | yes : Writes (.bool true) [['t', 'r', 'u', 'e']]
  | no : Writes (.bool false) [['f', 'a', 'l', 's', 'e']]
  | int {sign ds : List Char} (h : IsInteger sign ds) :
    Writes (.int (numeralValue sign ds)) [sign ++ ds]
  | real {w : List Char} {x : Float} (h : IsReal w)
    (hx : Number.readFloat? (String.ofList w) = some x) : Writes (.real x) [w]
  | text {s : String} {w : List Char} (h : WritesText s w) : Writes (.text s) [w]
  | emptyArray : Writes (.array []) [['['], [']']]
  | array {items : List Json} {ws : List (List Char)} (h : WritesItems items ws) :
    Writes (.array items) (['['] :: (ws ++ [[']']]))
  | emptyObject : Writes (.object []) [['{'], ['}']]
  | object {members : List (String × Json)} {ws : List (List Char)} (h : WritesMembers members ws) :
    Writes (.object members) (['{'] :: (ws ++ [['}']]))

/-- One item or more, with commas between them. -/
inductive WritesItems : List Json → List (List Char) → Prop
  | one {j : Json} {ws : List (List Char)} (h : Writes j ws) : WritesItems [j] ws
  | more {items : List Json} {j : Json} {ws us : List (List Char)} (hs : WritesItems items ws)
    (h : Writes j us) : WritesItems (items ++ [j]) (ws ++ [','] :: us)

/-- A name, a colon and a value. -/
inductive WritesMember : String × Json → List (List Char) → Prop
  | pair {name : String} {w : List Char} {j : Json} {ws : List (List Char)}
    (hname : WritesText name w) (h : Writes j ws) : WritesMember (name, j) (w :: [':'] :: ws)

/-- One member or more, with commas between them. -/
inductive WritesMembers : List (String × Json) → List (List Char) → Prop
  | one {m : String × Json} {ws : List (List Char)} (h : WritesMember m ws) : WritesMembers [m] ws
  | more {members : List (String × Json)} {m : String × Json} {ws us : List (List Char)}
    (hs : WritesMembers members ws) (h : WritesMember m us) :
    WritesMembers (members ++ [m]) (ws ++ [','] :: us)

end

/-- The texts of a value: its words in one of their forms, with any blanks between and around
    them. -/
def IsText (j : Json) (source : String) : Prop := ∃ ws, Writes j ws ∧ Laid ws source.toList

/-! ### Reading -/

mutual

/-- Whether no integer has too many digits. -/
def isReadable : Json → Bool
  | .int n => Text.isWritable n
  | .array items => itemsReadable items
  | .object members => membersReadable members
  | _ => true
termination_by structural j => j

def itemsReadable : List Json → Bool
  | [] => true
  | j :: items => isReadable j && itemsReadable items
termination_by structural items => items

def membersReadable : List (String × Json) → Bool
  | [] => true
  | (_, j) :: members => isReadable j && membersReadable members
termination_by structural members => members

end

/-- What a text of the value is read as. -/
def read (j : Json) : Except Failure Json :=
  if j.isReadable then .ok j else .error (.misuse .content)

/-! ### Decoding -/

section
variable (hook : Entries → Except Failure Value)

mutual

/-- The value, with the hook applied to every document from the inside out. -/
def decoded : Json → Except Failure Value
  | .null => .ok .null
  | .bool b => .ok (.bool b)
  | .int n => .ok (.int n)
  | .real x => .ok (.float x)
  | .text s => .ok (.text s)
  | .array items => do
    let vs ← decodedItems items
    .ok (.list vs)
  | .object members => do
    let es ← decodedMembers members
    hook (textEntries (lastWins es))
termination_by structural j => j

def decodedItems : List Json → Except Failure (List Value)
  | [] => .ok []
  | j :: items => do
    let v ← decoded j
    let vs ← decodedItems items
    .ok (v :: vs)
termination_by structural items => items

def decodedMembers : List (String × Json) → Except Failure (List (String × Value))
  | [] => .ok []
  | (name, j) :: members => do
    let v ← decoded j
    let es ← decodedMembers members
    .ok ((name, v) :: es)
termination_by structural members => members

end

end

/-- Neither a placeholder nor a block stands in any string or name. -/
inductive IsPlain : Json → Prop
  | null : IsPlain .null
  | bool (b : Bool) : IsPlain (.bool b)
  | int (n : Int) : IsPlain (.int n)
  | real (x : Float) : IsPlain (.real x)
  | text {s : String} (h : Segment.IsLiteral s.toList) : IsPlain (.text s)
  | array {items : List Json} (h : ∀ j ∈ items, IsPlain j) : IsPlain (.array items)
  | object {members : List (String × Json)}
    (hnames : ∀ m ∈ members, Segment.IsLiteral m.1.toList) (h : ∀ m ∈ members, IsPlain m.2) :
    IsPlain (.object members)

end Json

end LinkedDocs
