import LinkedDocs.Reference.BranchOrder
import LinkedDocs.Reference.Filter

/-! Reading a reference.

    Filter and context are computed from the reference value, the documents are looked up once, put
    back into the order of the references, and converted one by one. Looking up and converting are
    the caller's and may fail. -/

namespace LinkedDocs

/-- Runs a filter in a context. -/
abbrev LookupFunction (σ : Type) := Context → Value → Run σ (List Value)

/-- Converts one document. -/
abbrev Converter (σ : Type) := Value → Run σ Value

namespace Property

/-- Whether there is nothing to look up: an empty list of references. -/
def isVacant (p : Property) (value : Value) : Bool :=
  p.isMulti && (match value.sequence? with | some [] => true | _ => false)

/-- The documents of several references in the order of the references, as far as the filter tells
    them apart. -/
def arrange (p : Property) (value filter : Value) (docs : List Value) :
    Except Misuse (List Value) :=
  if p.isTemplated && value.sequence?.isSome then
    match filter.entries?.bind (Value.Entries.get? · (.text "$or")) with
    | some (.list branches) => BranchOrder.restore branches docs
    | _ => .error .key
  else .ok docs

/-- Converts documents in order, up to the first that fails. -/
def convertAll {σ : Type} (convert : Converter σ) : List Value → Run σ (List Value)
  | [] => pure []
  | d :: ds => do
    let v ← convert d
    let vs ← convertAll convert ds
    pure (v :: vs)

/-- The value of the property: a list of all documents, or the first one, or null. -/
def collect {σ : Type} (p : Property) (convert : Converter σ) (value filter : Value)
    (docs : List Value) : Run σ Value :=
  if p.isMulti then do
    let docs ← Run.value (p.arrange value filter docs)
    let vs ← convertAll convert docs
    pure (.list vs)
  else
    match docs with
    | [] => pure .null
    | d :: _ => convert d

/-- Reads the reference value. That it is noted down is left out: values, contexts and filters are
    taken to have a shown form. -/
def read {σ : Type} (p : Property) (value : Value) (lookup : LookupFunction σ)
    (convert : Converter σ) : Run σ Value :=
  if p.isVacant value then pure (.list [])
  else do
    let filter ← Run.lift (p.filter value)
    let context ← Run.lift (p.context value)
    let docs ← lookup context filter
    p.collect convert value filter docs

end Property

end LinkedDocs
