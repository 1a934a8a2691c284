import LinkedDocs.Store.Remote

/-! A client that records what it is asked.

    It answers every query with the same documents, and it can be made to fail at one point. -/

namespace LinkedDocs.Remote.Recorded

/-- A request to the client. -/
inductive Request where
  | findOne (database collection filter : Value) (sort : Option SortKeys)
  | find (database collection filter : Value)
  | sort (keys : SortKeys)

/-- Where the client fails. -/
inductive Fault where
  | findOne
  | find
  | iterate
  | findOneOther
  | findOther
  deriving DecidableEq, Repr

/-- The fault of the given name. -/
def Fault.ofName? (s : String) : Option Fault :=
  match s with
  | "find_one" => some .findOne
  | "find" => some .find
  | "iterate" => some .iterate
  | "find_one-other" => some .findOneOther
  | "find-other" => some .findOther
  | _ => none

def databaseError : String := "PyMongoError"

/-- Writes down a request. -/
def note (r : Request) : Call (List Request) Unit := modify (· ++ [r])

/-- The client over the given documents. A handle is a name or a pair of names, a cursor the
    documents it will give. -/
def client (docs : List Value) (fault : Option Fault) :
    Client (List Request) Value (Value × Value) (List Value) where
  database name := pure name
  collection database name := pure (database, name)
  findOne k filter keys := do
    note (.findOne k.1 k.2 filter keys)
    if fault = some .findOne then throw (.database databaseError)
    else if fault = some .findOneOther then Call.fail (.misuse .key)
    else pure docs.head?
  find k filter := do
    note (.find k.1 k.2 filter)
    if fault = some .find then throw (.database databaseError)
    else if fault = some .findOther then Call.fail (.misuse .key)
    else pure docs
  sort cursor keys := do
    note (.sort keys)
    pure cursor
  steps cursor :=
    (if fault = some .iterate then [throw (.database databaseError)] else []) ++ cursor.map pure

end LinkedDocs.Remote.Recorded
