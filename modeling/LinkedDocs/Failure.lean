import LinkedDocs.Text.Quoted

/-! Why resolving a reference can fail.

    One constructor per cause. Causes that a user meets in a declaration, a template or a store have
    a message; the misuse of a value by an operation has a kind only. -/

namespace LinkedDocs

/-- An operation does not apply to its operands. -/
inductive Misuse where
  | type
  | attribute
  | index
  | key
  | zeroDivision
  | overflow
  /-- A text does not denote what it should: a number, a date, a flag. -/
  | content
  deriving DecidableEq, Repr

/-- The two languages of a lookup declaration: expressions stand inside templates. -/
inductive Language where
  | expression
  | template
  deriving DecidableEq, Repr

def Language.name : Language → String
  | .expression => "expression"
  | .template => "template"

/-- The settings of a lookup that are templates of their own. -/
inductive Setting where
  | database
  | collection
  | sort
  deriving DecidableEq, Repr

/-- A template or expression cannot be evaluated. -/
inductive ExpressionFault where
  | illegalCharacter (language : Language) (c : Char) (position : Nat) (source : String)
  /-- A token stands where the grammar has no place for it; `value` is its shown value. -/
  | unexpectedToken (language : Language) (value : String) (position : Nat) (source : String)
  | unexpectedEnd (language : Language) (source : String)
  | unterminatedBlock (position : Nat) (source : String)
  | invalidUnicodeEscape (source : String)
  | unknownVariable (name : String)
  | propertyOfNull (name source : String)
  | propertyNotFound (name type source : String)
  | indexOutOfRange (key : Int) (source : String)
  /-- The value is not indexed by such a key; `key` is its shown form. -/
  | notIndexable (type key source : String)
  | notAddable (left right source : String)
  | noParameter (index : Int) (count : Nat)
  | notADocument (template type : String)
  | wrongSettingType (setting : Setting) (template type : String)
  deriving DecidableEq, Repr

/-- A reference property is declared inconsistently. -/
inductive ConfigurationFault where
  | noTemplate (property : String)
  | bothKinds (property : String)
  deriving DecidableEq, Repr

/-- What a lookup in a database was doing when the database failed. -/
inductive LookupTask where
  | one
  | many
  deriving DecidableEq, Repr

inductive Failure where
  | expression (fault : ExpressionFault)
  | configuration (fault : ConfigurationFault)
  /-- The database failed with an error of class `cause`; `place` is the shown context of the
      lookup. -/
  | lookup (task : LookupTask) (place cause : String)
  | unsupportedOperator (operator : String)
  | noDocument
  | noFields (type property : String)
  | notConvertible (type : String)
  | noLoader
  | noCollection (place : String)
  /-- A field of a declaration has a value that is not allowed. -/
  | invalidDeclaration
  | invalidObjectId
  | invalidPattern
  /-- A text is no base 64 encoding. -/
  | invalidEncoding
  /-- A text denotes no decimal number. -/
  | invalidDecimal
  /-- A number of milliseconds leads out of the calendar. -/
  | momentOutOfRange
  /-- Code outside the library gave up. -/
  | interrupted
  | misuse (fault : Misuse)
  deriving DecidableEq, Repr

def Language.unexpected : Language → String
  | .expression => "Unexpected token "
  | .template => "Unexpected "

def ExpressionFault.message : ExpressionFault → String
  | .illegalCharacter l c p src =>
    "Illegal character " ++ Text.quoted c.toString ++ " at position " ++ toString p ++ " in " ++
      l.name ++ " " ++ Text.quoted src
  | .unexpectedToken l v p src =>
    l.unexpected ++ v ++ " at position " ++ toString p ++ " in " ++ l.name ++ " " ++ Text.quoted src
  | .unexpectedEnd l src => "Unexpected end of " ++ l.name ++ " " ++ Text.quoted src
  | .unterminatedBlock p src =>
    "Unterminated expression starting at position " ++ toString p ++ " in " ++ Text.quoted src
  | .invalidUnicodeEscape src =>
    "Invalid unicode escape, expected four hex digits after \\u in template " ++ Text.quoted src
  | .unknownVariable n => "Unknown variable '#" ++ n ++ "'"
  | .propertyOfNull n src =>
    "Cannot read property '" ++ n ++ "' of null in expression " ++ Text.quoted src
  | .propertyNotFound n t src =>
    "Property '" ++ n ++ "' not found on " ++ t ++ " in expression " ++ Text.quoted src
  | .indexOutOfRange k src =>
    "Index " ++ toString k ++ " out of range in expression " ++ Text.quoted src
  | .notIndexable t k src =>
    "Cannot index " ++ t ++ " with " ++ k ++ " in expression " ++ Text.quoted src
  | .notAddable l r src =>
    "Cannot add " ++ l ++ " and " ++ r ++ " in expression " ++ Text.quoted src
  | .noParameter i n =>
    "No positional parameter ?" ++ toString i ++ "; the reference has " ++ toString n ++
      " value(s)."
  | .notADocument t ty =>
    "Template " ++ Text.quoted t ++ " did not decode to a document but to " ++ ty
  | .wrongSettingType s t ty =>
    let (name, expected) := match s with
      | .database => ("Database", "str")
      | .collection => ("Collection", "str")
      | .sort => ("Sort", "a document")
    name ++ " expression " ++ Text.quoted t ++ " evaluated to " ++ ty ++ ", expected " ++
      expected ++ "."

def ConfigurationFault.message : ConfigurationFault → String
  | .noTemplate p =>
    "Property '" ++ p ++ "' is not a document reference; no lookup template available."
  | .bothKinds p => "Property '" ++ p ++ "' cannot be both a document reference and a DBRef."

/-- The message of a failure, where it has one. -/
def Failure.message? : Failure → Option String
  | .expression f => some f.message
  | .configuration f => some f.message
  | .lookup task place _ =>
    let doing := match task with
      | .one => "fetching one reference from "
      | .many => "fetching references from "
    some ("An unexpected MongoDB error occurred during " ++ doing ++ place)
  | .unsupportedOperator op => some ("Unsupported operator: " ++ op)
  | .noDocument => some "Cannot convert None document."
  | .noFields t p => some ("Cannot determine the fields of " ++ t ++ " for reference '" ++ p ++ "'")
  | .notConvertible t => some ("Failed to convert referenced document into " ++ t)
  | .noLoader => some "ReferenceLoader must not be None"
  | .noCollection place =>
    some ("No collection to load references from for context " ++ place ++ ".")
  | _ => none

/-! ### Reports in other words -/

/-- The failures that code around the library may report, too, in words of its own. -/
inductive Report where
  | configuration
  | expression
  | lookup
  deriving DecidableEq, Repr

/-- What a report says where no words are given. -/
def Report.standard : Report → String
  | .configuration => "The reference property is not configured correctly."
  | .expression => "Expression evaluation failed."
  | .lookup => "Loading referenced documents failed."

def Report.message (r : Report) (words : Option String) : String := words.getD r.standard

end LinkedDocs
