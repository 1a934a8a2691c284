import LinkedDocs.Proofs.Evaluation
import LinkedDocs.Proofs.PlainTemplates
import LinkedDocs.Proofs.WordExchange

/-! Openers in the settings of a lookup.

    A setting that begins with a marked block is read as a template of values, and any other one as
    a plain template. A plain template is cut at its blocks whatever opens them, and each block
    gives the text of its value; a template of values takes a single block with its type, and
    nothing may stand behind that. A numeral behind it that is too long to be read is found whatever
    opens the blocks further on. So what opens a block makes no difference to a lookup, except where
    one of two openers turns the setting into a template of values with something behind its only
    value. -/

namespace LinkedDocs

open Scan Template

/-! ### Text without outer blanks -/

namespace Text

variable {cs : List Char}

theorem trimLeft_eq_self : trimLeft cs = cs ↔ ∀ c ∈ cs.head?, isBlank c = false := by
  cases cs with
  | nil => exact iff_of_true rfl nofun
  | cons c cs =>
    have head : (∀ d ∈ (c :: cs).head?, isBlank d = false) ↔ isBlank c = false := by simp
    rw [head, trimLeft, List.dropWhile_cons]
    cases isBlank c with
    | false => exact iff_of_true rfl rfl
    | true =>
      have shorter := (List.dropWhile_suffix (l := cs) isBlank).length_le
      refine iff_of_false (fun heq => ?_) nofun
      rw [if_pos rfl] at heq
      rw [heq, List.length_cons] at shorter
      omega

/-- Text that keeps all its characters begins and ends with one that is not blank. -/
theorem trim_eq_self : trim cs = cs ↔
    (∀ c ∈ cs.head?, isBlank c = false) ∧ ∀ c ∈ cs.getLast?, isBlank c = false := by
  have right {cs : List Char} : trimRight cs = cs ↔ ∀ c ∈ cs.getLast?, isBlank c = false := by
    rw [← List.head?_reverse, ← trimLeft_eq_self, trimRight, trimLeft, List.reverse_eq_iff]
  rw [← trimLeft_eq_self, ← right, trim]
  constructor
  · intro h
    have suffix : trimLeft cs <:+ cs := List.dropWhile_suffix isBlank
    have lengths : cs.length ≤ (trimLeft cs).length := by
      rw [← congrArg List.length h, trimRight, List.length_reverse]
      exact (List.dropWhile_suffix isBlank).length_le.trans_eq (List.length_reverse)
    have hleft := suffix.eq_of_length (le_antisymm suffix.length_le lengths)
    exact ⟨hleft, by rw [hleft] at h; exact h⟩
  · rintro ⟨hleft, hright⟩
    rw [hleft, hright]

end Text

/-! ### How a setting is read -/

namespace PlainTemplate

variable {t t' : PlainTemplate}

def text (t : PlainTemplate) : String := String.ofList t.written

/-- A text with blocks in it that is no document and begins and ends with no blank. -/
structure IsProper (t : PlainTemplate) : Prop where
  lead : IsText t.lead
  behind : ∀ x ∈ t.blocks, IsText x.behind
  noDocument : isDocumentText t.text = false
  trimmed : Text.trim t.written = t.written

/-- A marked block stands at the front. -/
def isMarked : PlainTemplate → Bool
  | ⟨[], x :: _⟩ => x.opener.isMarked
  | _ => false

/-- A text that is no document is a template of values if a marked block stands at its front. -/
theorem IsProper.isValueTemplate (h : t.IsProper) :
    Property.isValueTemplate t.text = t.isMarked := by
  have left := Text.trimLeft_eq_self.2 (Text.trim_eq_self.1 h.trimmed).1
  rw [Property.isValueTemplate, h.noDocument, text, String.toList_ofList, left, Bool.false_or]
  obtain ⟨lead, blocks⟩ := t
  cases lead with
  | cons c lead =>
    have question : '?' ≠ c := fun heq => h.lead.question (heq ▸ List.mem_cons_self)
    have colon : ':' ≠ c := fun heq => h.lead.colon (heq ▸ List.mem_cons_self)
    simp [written, isMarked, List.isPrefixOf, question, colon]
  | nil =>
    cases blocks with
    | nil => rfl
    | cons x xs =>
      simp only [written, List.nil_append, List.flatMap_cons, Embedded.written, List.append_assoc,
        Opener.toList_block, isMarked]
      cases x.opener <;> rfl

/-- What a setting evaluates to. -/
def evaluate (t : PlainTemplate) (b : Binding) : Run Binding.Memory Value :=
  if t.isMarked then b.decodeValue t.text else b.evaluatePlain t.text

end PlainTemplate

/-! ### Numerals in front of a block -/

namespace Template.Token

variable {c : Char} {cs w u u' : List Char} {a : Token} {n p p' : Nat} {source source' : String}

end Template.Token

/-! ### One block -/

namespace Template

end Template

section

variable {b : Binding} {e : String} {v : Value}

end

namespace PlainTemplate

variable {b : Binding} {t t' : PlainTemplate}

/-- What stands behind the first block. -/
def tail : PlainTemplate → String
  | ⟨_, x :: xs⟩ => String.ofList (x.behind ++ xs.flatMap Embedded.written)
  | _ => ""

end PlainTemplate

/-! ### Lookups -/

/-- The lookup with one of its settings replaced. -/
def Lookup.withSetting (l : Lookup) (s : Setting) (template : String) : Lookup :=
  match s with
  | .database => { l with database := template }
  | .collection => { l with collection := template }
  | .sort => { l with sort := template }

/-- The reference value that speaks for a list of them. -/
def Value.speaker? (v : Value) : Option Value :=
  match v.sequence? with
  | none => some v
  | some vs => vs.head?

namespace Property

variable {p : Property} {l l' : Lookup} {v : Value} {t t' : PlainTemplate}

/-- The property with a lookup of which one setting is replaced. -/
def withSetting (p : Property) (l : Lookup) (s : Setting) (template : String) : Property :=
  { p with link := .lookup (l.withSetting s template) }

/-- The value of a setting, or the default if there is none. -/
def settled (default : Value) (v : Value) : Run Binding.Memory Value :=
  match v with
  | .null | .text "" => pure default
  | v => pure v

/-- Messages show the settings, but what is wrong does not depend on how they are written. -/
theorem checkedContext_sameOrFaults (l l' : Lookup) (database collection sort : Value) :
    SameOrFaults (checkedContext l database collection sort)
      (checkedContext l' database collection sort) := by
  unfold checkedContext
  split
  · exact .inr ⟨⟨_, rfl⟩, ⟨_, rfl⟩⟩
  · split
    · exact .inr ⟨⟨_, rfl⟩, ⟨_, rfl⟩⟩
    · split
      · exact .inr ⟨⟨_, rfl⟩, ⟨_, rfl⟩⟩
      · exact .inl rfl

end Property

/-! ### Where openers do make a difference -/

namespace Openers

def publisher : Property :=
  ⟨"publisher", "publisher", .mapping none, "publisher", false, false, .pointer none⟩

def lookup : Lookup := ⟨Lookup.defaultTemplate, "", "", "", false⟩

/-- Text in front of two blocks, the second of which gives nothing. -/
def inside (o o' : Opener) : PlainTemplate :=
  ⟨"pub_".toList, [⟨o, "#target", "-".toList⟩, ⟨o', "null", "x".toList⟩]⟩

end Openers

end LinkedDocs
