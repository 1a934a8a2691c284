import LinkedDocs.Reference.Context
import LinkedDocs.Store.Memory

/-! Loading references through a database client.

    The client is asked in stages: for a database, a collection, and one record or a cursor that is
    sorted and read step by step. Each stage may fail. An error of the database itself is reported
    as a failed lookup, whichever stage it strikes; any other failure passes as it is. -/

namespace LinkedDocs.Remote

/-- How a call to the client can fail. -/
inductive ClientError where
  /-- An error of the database, by the name of its class. -/
  | database (cause : String)
  | other (f : Failure)
  deriving DecidableEq, Repr

/-- A call to the client; `σ` is the client's own state. -/
abbrev Call (σ α : Type) := ExceptT ClientError (StateM σ) α

/-- Sort fields with 1 for ascending and -1 for descending. -/
abbrev SortKeys := List (Value × Int)

/-- A client with its handles on databases, collections and cursors. -/
structure Client (σ δ κ γ : Type) where
  database : Value → Call σ δ
  collection : δ → Value → Call σ κ
  findOne : κ → Value → Option SortKeys → Call σ (Option Value)
  find : κ → Value → Call σ γ
  sort : γ → SortKeys → Call σ γ
  /-- The steps of reading a cursor to its end. -/
  steps : γ → List (Call σ Value)

/-- A loader: a client, and what is meant where a context says nothing. -/
structure Loader (σ δ κ γ : Type) where
  client : Client σ δ κ γ
  database : Value
  collection : Value

variable {σ δ κ γ : Type}

/-- A loader over a client, if it is one. -/
def Loader.make? (client : Option (Client σ δ κ γ)) (database collection : Value) :
    Except Failure (Loader σ δ κ γ) :=
  match client with
  | some client => .ok { client, database, collection }
  | none => .error (.misuse .type)

/-- The sort keys of a sort document. -/
def sortKeys (sort : Value) : Except Failure (Option SortKeys) :=
  if !sort.truthy then .ok none
  else match sort.entries? with
    | some es => .ok (some (es.map fun e => (e.1, if Store.isDescending e.2 then -1 else 1)))
    | none => .error (.misuse .attribute)

def Call.fail {α : Type} (f : Failure) : Call σ α := throw (.other f)

def Call.ofExcept {α : Type} (x : Except Failure α) : Call σ α :=
  match x with
  | .ok a => pure a
  | .error f => Call.fail f

/-- The collection that a context means. Without a name the client is not asked. -/
def Loader.collectionFor (l : Loader σ δ κ γ) (c : Context) : Call σ κ := do
  let database := Store.orDefault c.database l.database
  let collection := Store.orDefault c.collection l.collection
  if !collection.truthy then Call.fail (.noCollection c.shown)
  else
    let d ← l.client.database database
    l.client.collection d collection

/-- Reads all steps of a cursor, up to the first that fails. -/
def readAll : List (Call σ Value) → Call σ (List Value)
  | [] => pure []
  | step :: steps => do
    let v ← step
    let vs ← readAll steps
    pure (v :: vs)

/-- A sequence of calls as one lookup: an error of the database is a failure of the lookup. -/
def asLookup {α : Type} (task : LookupTask) (c : Context) (call : Call σ α) : Run σ α :=
  Run.of fun s =>
    match (ExceptT.run call).run s with
    | (.ok a, s) => (.ok a, s)
    | (.error (.database cause), s) => (.error (.lookup task c.shown cause), s)
    | (.error (.other f), s) => (.error f, s)

/-- The first record that a filter matches. That a lookup is noted down is left out, here and for
    many records: filters and contexts are taken to have a shown form. -/
def Loader.fetchOne (l : Loader σ δ κ γ) (c : Context) (filter : Value) : Run σ (Option Value) :=
  asLookup .one c do
    let k ← l.collectionFor c
    let keys ← Call.ofExcept (sortKeys c.sort)
    l.client.findOne k filter keys

/-- All records that a filter matches. -/
def Loader.fetchMany (l : Loader σ δ κ γ) (c : Context) (filter : Value) : Run σ (List Value) :=
  asLookup .many c do
    let k ← l.collectionFor c
    let cursor ← l.client.find k filter
    let keys ← Call.ofExcept (sortKeys c.sort)
    let cursor ← match keys with
      | some keys => l.client.sort cursor keys
      | none => pure cursor
    readAll (l.client.steps cursor)

end LinkedDocs.Remote
