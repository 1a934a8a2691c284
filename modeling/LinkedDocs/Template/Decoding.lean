import LinkedDocs.ExtendedJson
import LinkedDocs.Template.Plain
import LinkedDocs.Template.Reading
import LinkedDocs.Value.Stored

/-! Decoding templates into filter documents.

    Placeholders and blocks are bound while the template is decoded. As a whole value they keep the
    type of what is bound to them; inside a longer string they are rendered as text. Bound text is
    never read as a template again. Each complete document is interpreted as extended JSON. -/

namespace LinkedDocs.Binding

open Value (Entries)

/-- The text of one segment of a quoted string. A block without a mark is ordinary text. -/
def renderQuoted (b : Binding) (s : Segment) : Run Memory String :=
  match s with
  | .placeholder n => do
    let v ← Run.lift (b.parameter n)
    Run.value (rendered v)
  | .expression src => do
    let v ← b.evaluate src
    Run.value (rendered v)
  | .bare src => pure ("#\x7b" ++ src ++ "\x7d")
  | .text t => pure t

/-- The text of a quoted string. -/
def interpolate (b : Binding) (content : String) : Run Memory String := do
  let segments ← Run.lift (Segment.split content)
  renderAll b.renderQuoted segments

/-- The value of a quoted string: typed, if the string is exactly one placeholder or block. -/
def bindString (b : Binding) (content : String) : Run Memory Value := do
  let segments ← Run.lift (Segment.split content)
  match segments with
  | [.placeholder n] => do
    let v ← Run.lift (b.parameter n)
    pure v.stored
  | [.expression src] => do
    let v ← b.evaluate src
    pure v.stored
  | segments => do
    let s ← renderAll b.renderQuoted segments
    pure (.text s)

/-- The text of a key. A bound key has to be one that can be written. -/
def bindKey (b : Binding) (key : Template.Key) : Run Memory String :=
  match key with
  | .name s => pure s
  | .string s => b.interpolate s
  | .placeholder n => do
    let v ← Run.lift (b.parameter n)
    Run.value v.written
  | .expression src => do
    let v ← b.evaluate src
    Run.value v.written

mutual

/-- The value of a template. -/
def bind (b : Binding) : Template → Run Memory Value
  | .value v => pure v
  | .string s => b.bindString s
  | .placeholder n => do
    let v ← Run.lift (b.parameter n)
    pure v.stored
  | .expression src => do
    let v ← b.evaluate src
    pure v.stored
  | .objectId s => do
    let v ← b.bindString s
    Run.lift (ExtendedJson.objectId v)
  | .array items => do
    let xs ← bindItems b items
    pure (.list xs)
  | .document members => do
    let es ← bindMembers b members
    Run.lift (ExtendedJson.interpret (Entries.ofList es))
termination_by structural t => t

def bindItems (b : Binding) : List Template → Run Memory (List Value)
  | [] => pure []
  | t :: ts => do
    let v ← bind b t
    let vs ← bindItems b ts
    pure (v :: vs)
termination_by structural ts => ts

def bindMembers (b : Binding) : List (Template.Key × Template) → Run Memory (List (Value × Value))
  | [] => pure []
  | (k, t) :: ms => do
    let k ← b.bindKey k
    let v ← bind b t
    let es ← bindMembers b ms
    pure ((.text k, v) :: es)
termination_by structural ms => ms

end

/-- The value that a template text decodes to. That it is noted down is left out: it is taken to
    have a shown form. -/
def decodeValue (b : Binding) (template : String) : Run Memory Value := do
  let t ← Run.lift (Template.parse template)
  bind b t

/-- The document that a template text decodes to. -/
def decode (b : Binding) (template : String) : Run Memory Value := do
  let v ← b.decodeValue template
  if v.isMapping then pure v
  else Run.lift (.error (.expression (.notADocument template v.typeName)))

end LinkedDocs.Binding
