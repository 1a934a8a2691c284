import LinkedDocs.Entity.Conversion
import LinkedDocs.Lazy.Proxy
import LinkedDocs.Reference.Reading
import LinkedDocs.Store.Memory

/-! Resolving a reference property.

    A loader runs the lookups. Properties with several references ask it for all documents, the
    others for one. A lazy property gives a proxy, and its lookup runs when the proxy is first used;
    until then nothing is asked. -/

namespace LinkedDocs

/-- A source of documents. -/
structure Loader (σ : Type) where
  fetchOne : Context → Value → Run σ (Option Value)
  fetchMany : Context → Value → Run σ (List Value)

/-- The loader over a store that is part of the state. -/
def Loader.ofStore {σ : Type} (store : σ → Store) : Loader σ where
  fetchOne c f := Run.of fun s => ((store s).fetchOne c f, s)
  fetchMany c f := Run.of fun s => ((store s).fetchMany c f, s)

/-- Which of its two questions a loader was asked. -/
inductive LoaderCall.Kind where
  | one
  | many
  deriving DecidableEq, Repr

/-- A question to a loader. -/
structure LoaderCall where
  kind : LoaderCall.Kind
  context : Context
  filter : Value

/-- A store, and what its loader was asked so far. -/
structure Library where
  store : Store
  calls : List LoaderCall

namespace Library

def note (c : LoaderCall) : Run Library Unit :=
  modify fun l => { l with calls := l.calls ++ [c] }

/-- The loader over the library's store, which writes down what it is asked. -/
def loader : Loader Library where
  fetchOne c f := do
    note ⟨.one, c, f⟩
    (Loader.ofStore Library.store).fetchOne c f
  fetchMany c f := do
    note ⟨.many, c, f⟩
    (Loader.ofStore Library.store).fetchMany c f

end Library

namespace Property

variable {σ : Type}

/-- How the property's documents are looked up. -/
def lookupFunction (p : Property) (loader : Loader σ) : LookupFunction σ := fun context filter =>
  if p.isMulti || p.isMap then loader.fetchMany context filter
  else do
    let found ← loader.fetchOne context filter
    pure found.toList

/-- The value of the property, loaded at once. -/
def load (p : Property) (value : Value) (loader : Loader σ) (convert : Converter σ) :
    Run σ Value :=
  p.read value (p.lookupFunction loader) convert

/-- The standard converter: an instance of the property's target type. -/
def converter (p : Property) (ids : Conversion.IdFields) : Converter σ := fun doc =>
  Run.lift (Conversion.convert ids p.name p.target doc)

end Property

namespace Pool

variable {σ : Type}

/-- A computation on the state that loading works on. -/
def onWorld {α : Type} (x : Run σ α) : Use σ α := Run.of fun pool =>
  match x.exec pool.world with
  | (r, w) => (r, { pool with world := w })

/-- The value of a reference property: loaded at once, or a proxy if the property is lazy. -/
def resolve (p : Property) (value : Value) (loader : Loader σ) (convert : Converter σ) :
    Use σ Value :=
  if p.isLazy then
    Run.of fun pool =>
      match pool.defer p.name value (p.load value loader convert) with
      | (pool, proxy) => (.ok proxy, pool)
  else onWorld (p.load value loader convert)

/-- The value of a reference property of a stored document; null if the document has none. -/
def resolveIn (p : Property) (document : Value) (loader : Loader σ) (convert : Converter σ) :
    Use σ Value :=
  match document.entries? with
  | none => Run.value (.error .attribute)
  | some es =>
    match Value.Entries.get? es (.text p.field) with
    | none | some .null => pure .null
    | some v => resolve p v loader convert

end Pool

/-- A resolver needs a loader. -/
def requireLoader {σ : Type} (loader : Option (Loader σ)) : Except Failure (Loader σ) :=
  match loader with
  | some l => .ok l
  | none => .error .noLoader

end LinkedDocs
