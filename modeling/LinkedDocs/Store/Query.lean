import LinkedDocs.Pattern.Compiled
import LinkedDocs.Pattern.Matching
import LinkedDocs.Value.Attribute
import LinkedDocs.Value.Container

/-! Which documents a filter matches.

    A filter is a document of conditions, one for each field, and all of them have to hold. A
    condition is a document of operators, a regular expression, or a value to be equal to; a field
    that holds a list also equals each of its items. Conditions are tested in order and only as far
    as needed, so a condition that makes no sense fails only if it is reached. -/

namespace LinkedDocs.Query

open Value (Entries)

abbrev Test := Except Failure Bool

def misuse {α : Type} (m : Misuse) : Except Failure α := .error (.misuse m)

/-- Whether all members pass a test, tested in order up to the first that does not. -/
def allTrue {α : Type} (f : α → Test) : List α → Test
  | [] => .ok true
  | x :: xs => do
    if ← f x then allTrue f xs else pure false

/-- Whether any member passes a test, tested in order up to the first that does. -/
def anyTrue {α : Type} (f : α → Test) : List α → Test
  | [] => .ok false
  | x :: xs => do
    if ← f x then pure true else anyTrue f xs

/-- The negation of a test that succeeds. -/
def negated (t : Test) : Test := t.map (!·)

/-- The value under a key of a document. -/
def entry? (doc key : Value) : Except Failure (Option Value) :=
  match doc.entries? with
  | some es => .ok (Entries.get? es key)
  | none => misuse .attribute

/-- The value of a field, if the document has it. A name with points is a path. Other keys that may
    hold a point are no names: they must not hold one. -/
def fieldValue? (doc field : Value) : Except Failure (Option Value) :=
  match field with
  | .text name => if '.' ∈ name.toList then .ok (doc.atPath? name) else entry? doc field
  | .tuple xs | .set _ xs =>
    if (Value.text ".").occursIn xs then misuse .attribute else entry? doc field
  | _ => misuse .type

/-- Whether a field equals a value. A missing field equals null, and a list equals its items unless
    it is compared with a list. -/
def equals (value : Option Value) (operand : Value) : Bool :=
  match value with
  | none => operand.isNull
  | some v =>
    match v, operand with
    | .list xs, .list ys => Value.equalAll xs ys
    | .list xs, w => w.occursIn xs
    | v, w => v.equal w

/-- Whether a field holds a text that the pattern occurs in. -/
def found (value : Option Value) (p : Pattern) : Bool :=
  match value.bind Value.text? with
  | some s => p.search s
  | none => false

/-- A condition that is a regular expression. The pattern is read before the field is looked at. -/
def matchesPattern (value : Option Value) (pattern : String) (flags : Nat) : Test :=
  (Pattern.compile pattern flags).map (found value)

/-- The operator of regular expressions. The pattern is read only for a field that holds a text. -/
def matchesOperand (value : Option Value) (operand : Value) : Test :=
  match value.bind Value.text? with
  | none => .ok false
  | some _ =>
    match operand with
    | .regex true p f => matchesPattern value p f
    | .text p => matchesPattern value p 0
    | _ => misuse .type

/-- An order operator. A missing field and null are in no order. -/
def ordered (value : Option Value) (c : Value.Comparison) (operand : Value) : Test :=
  match value with
  | none | some .null => .ok false
  | some v => (Value.compareBy c v operand).mapError .misuse

/-- The candidates of a membership operator. -/
def candidates (operand : Value) : Except Failure (List Value) := operand.items.mapError .misuse

/-- Whether the field equals one of the candidates. -/
def isAmong (value : Option Value) (operand : Value) : Test :=
  (candidates operand).map fun cs => cs.any (equals value)

/-- Tests one operator. -/
def checkOperator (operator : String) (value : Option Value) (operand : Value) : Test :=
  match operator with
  | "$eq" => .ok (equals value operand)
  | "$ne" => .ok (!equals value operand)
  | "$gt" => ordered value .gt operand
  | "$gte" => ordered value .ge operand
  | "$lt" => ordered value .lt operand
  | "$lte" => ordered value .le operand
  | "$in" => isAmong value operand
  | "$nin" => negated (isAmong value operand)
  | "$exists" => .ok (value.isSome == operand.truthy)
  | "$regex" => matchesOperand value operand
  | op => .error (.unsupportedOperator op)

/-- Whether all keys of a condition name operators; the first that does not decides. -/
def allOperators : Entries → Test
  | [] => .ok true
  | (k, _) :: es =>
    match k with
    | .text s => if ['$'].isPrefixOf s.toList then allOperators es else .ok false
    | .bytes .. => misuse .type
    | _ => misuse .attribute

/-- Whether a condition is a document of operators. -/
def isOperators (condition : Value) : Test :=
  match condition.entries? with
  | some (e :: es) => allOperators (e :: es)
  | _ => .ok false

/-- Tests a document of operators. -/
def checkOperators (value : Option Value) (condition : Entries) : Test :=
  allTrue (fun e => checkOperator (e.1.text?.getD "") value e.2) condition

/-- Tests the condition of a field. -/
def checkCondition (value : Option Value) (condition : Value) : Test := do
  if ← isOperators condition then checkOperators value (condition.entries?.getD [])
  else
    match condition with
    | .regex _ p f => matchesPattern value p f
    | condition => pure (equals value condition)

/-- The operators that combine whole filters. -/
inductive Junction where
  | or | and | nor
  deriving DecidableEq, Repr

def junction? (field : Value) : Option Junction :=
  match field with
  | .text "$or" => some .or
  | .text "$and" => some .and
  | .text "$nor" => some .nor
  | _ => none

mutual

/-- Whether a document matches a filter. -/
def matchesFilter (doc : Value) : Value → Test
  | .map es | .mapping _ es => matchesEntries doc es
  | _ => misuse .attribute
termination_by structural f => f

/-- Whether all conditions of a filter hold. -/
def matchesEntries (doc : Value) : List (Value × Value) → Test
  | [] => .ok true
  | (field, condition) :: es => do
    let holds ← match junction? field with
      | some .or => anyFilter doc condition
      | some .and => allFilters doc condition
      | some .nor => negated (anyFilter doc condition)
      | none => do
        let v ← fieldValue? doc field
        checkCondition v condition
    if holds then matchesEntries doc es else pure false
termination_by structural es => es

/-- Whether any filter of a list matches. What is no list of filters has no member that is one. -/
def anyFilter (doc : Value) : Value → Test
  | .list fs | .tuple fs => anyOfFilters doc fs
  | v => match v.items with
    | .ok [] => .ok false
    | .ok _ => misuse .attribute
    | .error m => misuse m
termination_by structural f => f

/-- Whether all filters of a list match. -/
def allFilters (doc : Value) : Value → Test
  | .list fs | .tuple fs => allOfFilters doc fs
  | v => match v.items with
    | .ok [] => .ok true
    | .ok _ => misuse .attribute
    | .error m => misuse m
termination_by structural f => f

def anyOfFilters (doc : Value) : List Value → Test
  | [] => .ok false
  | f :: fs => do
    if ← matchesFilter doc f then pure true else anyOfFilters doc fs
termination_by structural fs => fs

def allOfFilters (doc : Value) : List Value → Test
  | [] => .ok true
  | f :: fs => do
    if ← matchesFilter doc f then allOfFilters doc fs else pure false
termination_by structural fs => fs

end

end LinkedDocs.Query
