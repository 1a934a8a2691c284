import LinkedDocs.Expr.Evaluation
import LinkedDocs.Template.Segment

/-! Plain templates: texts that may embed expression blocks.

    A text that is one block gives the block's value with its type; a text without blocks is left as
    it is; any other is rendered, each block by the text of its value. What looks like a placeholder
    is ordinary text here. -/

namespace LinkedDocs

/-- The source of a segment that is a block. -/
def Segment.block? : Segment → Option String
  | .expression s | .bare s => some s
  | _ => none

/-- The text of a bound value inside a longer text, if it can be written. -/
def Binding.rendered (v : Value) : Except Misuse String := if v.isNull then .ok "" else v.written

namespace Binding

/-- The text of one segment of a plain template. -/
def renderPlain (b : Binding) (s : Segment) : Run Memory String :=
  match s with
  | .expression src | .bare src => do
    let v ← b.evaluate src
    Run.value (rendered v)
  | .placeholder n => pure ("?" ++ toString n)
  | .text t => pure t

/-- The texts of segments, joined in order. -/
def renderAll (f : Segment → Run Memory String) : List Segment → Run Memory String
  | [] => pure ""
  | s :: ss => do
    let x ← f s
    let rest ← renderAll f ss
    pure (x ++ rest)

/-- The value of a plain template. -/
def evaluatePlain (b : Binding) (template : String) : Run Memory Value := do
  let segments ← Run.lift (Segment.split template)
  if segments.all fun s => s.block?.isNone then pure (.text template)
  else
    match segments with
    | [.expression src] | [.bare src] => b.evaluate src
    | segments => do
      let s ← renderAll b.renderPlain segments
      pure (.text s)

end Binding

end LinkedDocs
