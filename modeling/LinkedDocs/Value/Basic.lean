import LinkedDocs.Moment
import LinkedDocs.ObjectId

/-! Values that documents hold.

    A reference value, a template's result and a stored document are all values of one dynamic type:
    the JSON types, the types a document database adds to them, domain objects, and lazily loaded
    references. A mapping keeps its entries in insertion order. -/

namespace LinkedDocs

/-- How a domain object's class treats its fields. -/
inductive ObjectForm where
  /-- Checks field types when built, takes no undeclared field, and may store a field under
      another name. -/
  | model
  /-- A plain record of fields, compared field by field. -/
  | structural
  /-- Any class with attributes; an instance equals itself only. -/
  | plain
  /-- Like `plain`, but only the declared attributes exist. -/
  | slotted
  deriving DecidableEq, Repr

/-- What an instance of a domain class carries of its class. -/
structure Shape where
  name : String
  form : ObjectForm
  fields : List String
  /-- Field names with the names they are stored under, where those differ. -/
  aliases : List (String × String)
  deriving DecidableEq, Repr

/-- The name a field is stored under. -/
def Shape.storedName (s : Shape) (field : String) : String := (s.aliases.lookup field).getD field

inductive Value where
  | null
  | bool (b : Bool)
  | int (n : Int)
  /-- An integer marked as a 64 bit one. -/
  | long (n : Int)
  | float (x : Float)
  | text (s : String)
  | list (items : List Value)
  | tuple (items : List Value)
  | map (entries : List (Value × Value))
  /-- A mapping with a class of its own. -/
  | mapping (type : String) (entries : List (Value × Value))
  | set (frozen : Bool) (items : List Value)
  | objectId (id : ObjectId)
  | moment (m : Moment)
  /-- A length of time in microseconds. -/
  | duration (micros : Int)
  /-- A distance from universal time in seconds. -/
  | zone (offset : Int)
  /-- A pointer to a document: collection, identifier, database and extra attributes. -/
  | dbRef (collection : String) (id : Value) (database : Option String)
      (extras : List (String × Value))
  /-- A regular expression, ready for use or as stored. -/
  | regex (compiled : Bool) (pattern : String) (flags : Nat)
  /-- Bytes, marked with a subtype or plain. -/
  | bytes (subtype : Option Nat) (data : List UInt8)
  | decimal (text : String)
  | timestamp (time increment : Int)
  | code (text : String) (scope : Value)
  | minKey
  | maxKey
  | url (text : String)
  /-- An object of no declared class, with its attributes. -/
  | record (attributes : List (String × Value))
  /-- An instance of a domain class. -/
  | entity (shape : Shape) (fields : List (String × Value))
  /-- The function that gives back its arguments. -/
  | function
  /-- A lazily loaded reference: its number, the property it belongs to and the stored value. -/
  | deferred (id : Nat) (property : String) (source : Value)
  /-- The class of a value. -/
  | kind (name : String)
  /-- An object of which only the class is known. -/
  | other (type : String)

namespace Value

instance : Inhabited Value := ⟨.null⟩

/-- Entries of a mapping, in insertion order. -/
abbrev Entries := List (Value × Value)

/-- The entries, if the value is a mapping of any class. -/
def entries? : Value → Option Entries
  | .map es | .mapping _ es => some es
  | _ => none

def isMapping (v : Value) : Bool := v.entries?.isSome

/-- The items of a list or tuple. -/
def sequence? : Value → Option (List Value)
  | .list xs | .tuple xs => some xs
  | _ => none

/-- The integer a value counts as: truth values count as 0 and 1. -/
def int? : Value → Option Int
  | .bool b => some (if b then 1 else 0)
  | .int n | .long n => some n
  | _ => none

/-- The text of a text value; program code is a text, too. -/
def text? : Value → Option String
  | .text s | .code s _ => some s
  | _ => none

def isNull : Value → Bool
  | .null => true
  | _ => false

def isSet : Value → Bool
  | .set .. => true
  | _ => false

/-- The name of the class of lazily loaded references. -/
def proxyType : String := "LazyLoadingProxy"

/-- The name of the value's class in messages. -/
def typeName : Value → String
  | .null => "NoneType"
  | .bool _ => "bool"
  | .int _ => "int"
  | .long _ => "Int64"
  | .float _ => "float"
  | .text _ => "str"
  | .list _ => "list"
  | .tuple _ => "tuple"
  | .map _ => "dict"
  | .mapping t _ => t
  | .set frozen _ => if frozen then "frozenset" else "set"
  | .objectId _ => "ObjectId"
  | .moment _ => "datetime"
  | .duration _ => "timedelta"
  | .zone _ => "timezone"
  | .dbRef .. => "DBRef"
  | .regex compiled .. => if compiled then "Pattern" else "Regex"
  | .bytes none _ => "bytes"
  | .bytes (some _) _ => "Binary"
  | .decimal _ => "Decimal128"
  | .timestamp .. => "Timestamp"
  | .code .. => "Code"
  | .minKey => "MinKey"
  | .maxKey => "MaxKey"
  | .url _ => "AnyUrl"
  | .record _ => "Record"
  | .entity s _ => s.name
  | .function => "function"
  | .deferred .. => proxyType
  | .kind _ => "type"
  | .other t => t

/-- Whether a value counts as true. -/
def truthy : Value → Bool
  | .null => false
  | .bool b => b
  | .int n | .long n => n != 0
  | .float x => x != 0.0
  | .text s | .code s _ => !s.isEmpty
  | .list xs | .tuple xs | .set _ xs => !xs.isEmpty
  | .map es | .mapping _ es => !es.isEmpty
  | .bytes _ bs => !bs.isEmpty
  | .duration n => n != 0
  | .url s => !s.isEmpty
  | _ => true

mutual

/-- Whether a value can be the key of a mapping: nothing in it may change. -/
def hashable : Value → Bool
  | .list _ | .map _ | .mapping .. | .set false _ | .regex false .. | .code .. | .decimal _ => false
  | .tuple xs | .set true xs => allHashable xs
  | .dbRef _ id _ extras => id.hashable && fieldsHashable extras
  | .entity s _ => s.form == .plain || s.form == .slotted
  | _ => true

def allHashable : List Value → Bool
  | [] => true
  | x :: xs => x.hashable && allHashable xs

def fieldsHashable : List (String × Value) → Bool
  | [] => true
  | (_, v) :: fs => v.hashable && fieldsHashable fs

end

end Value

end LinkedDocs
