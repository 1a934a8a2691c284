import LinkedDocs.Reference.Context
import LinkedDocs.Sorting
import LinkedDocs.Store.Query

/-! A store of documents in memory.

    The store is the list of all insertions, each with the database and collection it went to. A
    fetch takes the documents of one collection that match a filter, in insertion order, and sorts
    them by the context. -/

namespace LinkedDocs

open Value (Entries)

/-- One insertion. -/
structure Store.Row where
  database : Value
  collection : Value
  document : Value

structure Store where
  /-- The database meant when none is named. -/
  database : Value
  /-- The collection meant when none is named. -/
  collection : Value
  rows : List Store.Row

namespace Store

def empty (database collection : Value) : Store := ⟨database, collection, []⟩

/-- The value, unless it says nothing. -/
def orDefault (v default : Value) : Value := if v.truthy then v else default

/-- Adds a document to a collection. -/
def insert (s : Store) (collection document database : Value) : Except Misuse Store :=
  let database := orDefault database s.database
  if database.hashable && collection.hashable then
    .ok { s with rows := s.rows ++ [⟨database, collection, document⟩] }
  else .error .type

/-- Adds documents in order. -/
def insertAll (s : Store) (collection database : Value) : List Value → Except Misuse Store
  | [] => .ok s
  | d :: ds => do
    let s ← s.insert collection d database
    s.insertAll collection database ds

/-! ### Sorting -/

/-- Whether a sort direction is the descending one. -/
def isDescending (direction : Value) : Bool :=
  direction.occursIn [.int (-1), .text "desc", .text "descending"]

/-- What a document is sorted by: its field, where it has one that is not null. -/
def sortKey (field doc : Value) : Except Failure (Option Value) := do
  match ← Query.fieldValue? doc field with
  | none | some .null => pure none
  | some v => pure (some v)

/-- Whether a key goes before another one: none goes before all values. -/
def keyBefore : Option Value → Option Value → Except Failure Bool
  | none, k => .ok k.isSome
  | some _, none => .ok false
  | some v, some w => if v.equal w then .ok false else (v.less w).mapError .misuse

/-- The documents with their keys. -/
def withKeys (field : Value) : List Value → Except Failure (List (Option Value × Value))
  | [] => .ok []
  | d :: ds => do
    let k ← sortKey field d
    let rest ← withKeys field ds
    pure ((k, d) :: rest)

/-- Sorts by one field. Documents with equal keys keep their order in both directions. -/
def sortBy (field direction : Value) (docs : List Value) : Except Failure (List Value) := do
  let keyed ← withKeys field docs
  let before (a b : Option Value × Value) : Except Failure Bool := keyBefore a.1 b.1
  let sorted ←
    if isDescending direction then Sorting.sortDown before keyed else Sorting.sort before keyed
  pure (sorted.map (·.2))

/-- Sorts by several fields: by the last one first, so that the first one decides most. -/
def sortByAll : Entries → List Value → Except Failure (List Value)
  | [], docs => .ok docs
  | (field, direction) :: es, docs => do
    let docs ← sortByAll es docs
    sortBy field direction docs

/-- Sorts by the sort document of a context. -/
def sortDocuments (sort : Value) (docs : List Value) : Except Failure (List Value) :=
  if docs.isEmpty || !sort.truthy then .ok docs
  else
    match sort.entries? with
    | some es => sortByAll es docs
    | none => .error (.misuse .attribute)

/-! ### Fetching -/

/-- The documents of a collection, in insertion order. -/
def documents (s : Store) (database collection : Value) : List Value :=
  (s.rows.filter fun r => database.equal r.database && collection.equal r.collection).map
    (·.document)

/-- The documents that match a filter, up to the first on which matching fails. -/
def select (filter : Value) : List Value → Except Failure (List Value)
  | [] => .ok []
  | d :: ds => do
    if ← Query.matchesFilter d filter then
      let rest ← select filter ds
      pure (d :: rest)
    else select filter ds

/-- All documents that a filter matches in a context. That they are looked for is noted down, which
    is left out: filters and contexts are taken to have a shown form. -/
def fetchMany (s : Store) (c : Context) (filter : Value) : Except Failure (List Value) := do
  let database := orDefault c.database s.database
  let collection := orDefault c.collection s.collection
  if !(database.hashable && collection.hashable) then .error (.misuse .type)
  else
    let found ← select filter (s.documents database collection)
    sortDocuments c.sort found

/-- The first document that a filter matches in a context. -/
def fetchOne (s : Store) (c : Context) (filter : Value) : Except Failure (Option Value) :=
  (s.fetchMany c filter).map List.head?

end Store

end LinkedDocs
