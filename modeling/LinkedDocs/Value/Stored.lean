import LinkedDocs.Value.Basic

/-! The form in which a value enters a filter.

    A database knows documents, lists and its own types. Domain objects become documents under their
    stored field names, sets become lists and addresses become text, at any depth; every other value
    stays as it is. -/

namespace LinkedDocs.Value

/-- The declared fields of a domain object as entries of a document. -/
def storedFields (s : Shape) (fs : List (String × Value)) : List (Value × Value) :=
  (fs.filter fun f => f.1 ∈ s.fields).map fun f =>
    (.text (if s.form == .model then s.storedName f.1 else f.1), f.2)

mutual

def stored : Value → Value
  | .list xs => .list (storedAll xs)
  | .tuple xs => .tuple (storedAll xs)
  | .set _ xs => .list (storedAll xs)
  | .map es | .mapping _ es => .map (storedEntries es)
  | .entity s fs =>
    if s.form == .model || s.form == .structural then .map (storedFields s (storedAttributes fs))
    else .entity s fs
  | .url s => .text s
  | v => v
termination_by structural v => v

def storedAll : List Value → List Value
  | [] => []
  | x :: xs => stored x :: storedAll xs
termination_by structural xs => xs

def storedEntries : List (Value × Value) → List (Value × Value)
  | [] => []
  | (k, v) :: es => (k, stored v) :: storedEntries es
termination_by structural es => es

def storedAttributes : List (String × Value) → List (String × Value)
  | [] => []
  | (k, v) :: fs => (k, stored v) :: storedAttributes fs
termination_by structural fs => fs

end

mutual

/-- No domain object, set or address is reachable through entries and items. -/
def isStorable : Value → Bool
  | .list xs | .tuple xs => allStorable xs
  | .map es | .mapping _ es => entriesStorable es
  | .entity s _ => s.form == .plain || s.form == .slotted
  | .set .. | .url _ => false
  | _ => true
termination_by structural v => v

def allStorable : List Value → Bool
  | [] => true
  | x :: xs => isStorable x && allStorable xs
termination_by structural xs => xs

def entriesStorable : List (Value × Value) → Bool
  | [] => true
  | (_, v) :: es => isStorable v && entriesStorable es
termination_by structural es => es

end

end LinkedDocs.Value
