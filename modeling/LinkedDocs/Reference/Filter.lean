import LinkedDocs.Reference.Context

/-! Which documents a reference means.

    The template of a lookup decodes to a filter, and several references to an alternative of their
    filters, in their order. References by identifier are matched by it. -/

namespace LinkedDocs

open Value (Entries)

/-- A filter that any of the branches satisfies. -/
def anyOf (branches : List Value) : Value := .map [(.text "$or", .list branches)]

/-- The identifier that a stored reference designates. -/
def referenceId (token : Value) : Value :=
  match token with
  | .dbRef _ id _ _ => id
  | token =>
    match token.entries? with
    | some es => (Entries.get? es (.text "_id")).getD ((Entries.get? es (.text "id")).getD .null)
    | none => token

namespace Property

/-- The filter of one reference value. -/
def branch (p : Property) (l : Lookup) (value : Value) : Except Failure Value :=
  ((p.binding value).decode l.template).outcome .fresh

/-- The filters of several reference values, up to the first that fails. -/
def branches (p : Property) (l : Lookup) : List Value → Except Failure (List Value)
  | [] => .ok []
  | v :: vs => do
    let b ← p.branch l v
    let bs ← p.branches l vs
    pure (b :: bs)

/-- The filter of a property with a lookup. -/
def lookupFilter (p : Property) (value : Value) : Except Failure Value := do
  let l ← p.requiredLookup
  match if p.isMulti then value.sequence? else none with
  | some vs => do
    let bs ← p.branches l vs
    pure (anyOf bs)
  | none => p.branch l value

/-- The filter for stored identifiers. -/
def pointerFilter (value : Value) : Value :=
  match value.sequence? with
  | some vs => .map [(.text "_id", .map [(.text "$in", .list (vs.map referenceId))])]
  | none => .map [(.text "_id", referenceId value)]

/-- The filter of any property. -/
def filter (p : Property) (value : Value) : Except Failure Value :=
  if p.isTemplated then p.lookupFilter value else .ok (pointerFilter value)

end Property

end LinkedDocs
