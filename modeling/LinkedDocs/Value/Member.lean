import LinkedDocs.Value.Basic

/-! What the values of a type share.

    A dotted path that ends in the name of a function finds the function: it is there, although
    nothing can be done with it. So the names that values of each type answer to belong to what a
    path can see. Operators are functions, too, and every value has those of comparison and
    display. -/

namespace LinkedDocs.Value.Member

/-- The operators that every value has. -/
def commonOperators : List String :=
  ["__delattr__", "__eq__", "__ge__", "__getattribute__", "__gt__", "__hash__", "__init__",
   "__le__", "__lt__", "__ne__", "__repr__", "__setattr__", "__str__"]

/-- The functions that every value has. -/
def commonFunctions : List String :=
  ["__dir__", "__format__", "__getstate__", "__init_subclass__", "__new__", "__reduce__",
   "__reduce_ex__", "__sizeof__", "__subclasshook__"]

/-- The functions of integers and truth values. -/
def wholeFunctions : List String :=
  ["as_integer_ratio", "bit_count", "bit_length", "conjugate", "from_bytes", "to_bytes", "__ceil__",
   "__floor__", "__getnewargs__", "__round__", "__trunc__"]

/-- The operators of integers and truth values. -/
def wholeOperators : List String :=
  ["__abs__", "__add__", "__and__", "__bool__", "__divmod__", "__float__", "__floordiv__",
   "__index__", "__int__", "__invert__", "__lshift__", "__mod__", "__mul__", "__neg__", "__or__",
   "__pos__", "__pow__", "__radd__", "__rand__", "__rdivmod__", "__rfloordiv__", "__rlshift__",
   "__rmod__", "__rmul__", "__ror__", "__rpow__", "__rrshift__", "__rshift__", "__rsub__",
   "__rtruediv__", "__rxor__", "__sub__", "__truediv__", "__xor__"]

/-- The functions of doubles. -/
def realFunctions : List String :=
  ["as_integer_ratio", "conjugate", "fromhex", "hex", "is_integer", "__ceil__", "__floor__",
   "__getformat__", "__getnewargs__", "__round__", "__trunc__"]

/-- The operators of doubles. -/
def realOperators : List String :=
  ["__abs__", "__add__", "__bool__", "__divmod__", "__float__", "__floordiv__", "__int__",
   "__mod__", "__mul__", "__neg__", "__pos__", "__pow__", "__radd__", "__rdivmod__",
   "__rfloordiv__", "__rmod__", "__rmul__", "__rpow__", "__rsub__", "__rtruediv__", "__sub__",
   "__truediv__"]

/-- The functions of texts. -/
def textFunctions : List String :=
  ["capitalize", "casefold", "center", "count", "encode", "endswith", "expandtabs", "find",
   "format", "format_map", "index", "isalnum", "isalpha", "isascii", "isdecimal", "isdigit",
   "isidentifier", "islower", "isnumeric", "isprintable", "isspace", "istitle", "isupper", "join",
   "ljust", "lower", "lstrip", "maketrans", "partition", "removeprefix", "removesuffix", "replace",
   "rfind", "rindex", "rjust", "rpartition", "rsplit", "rstrip", "split", "splitlines",
   "startswith", "strip", "swapcase", "title", "translate", "upper", "zfill", "__getnewargs__"]

/-- The operators of texts. -/
def textOperators : List String :=
  ["__add__", "__contains__", "__getitem__", "__iter__", "__len__", "__mod__", "__mul__",
   "__rmod__", "__rmul__"]

/-- The functions of lists. -/
def listFunctions : List String :=
  ["append", "clear", "copy", "count", "extend", "index", "insert", "pop", "remove", "reverse",
   "sort", "__class_getitem__", "__getitem__", "__reversed__"]

/-- The operators of lists. -/
def listOperators : List String :=
  ["__add__", "__contains__", "__delitem__", "__iadd__", "__imul__", "__iter__", "__len__",
   "__mul__", "__rmul__", "__setitem__"]

/-- The functions of tuples. -/
def tupleFunctions : List String :=
  ["count", "index", "__class_getitem__", "__getnewargs__"]

/-- The operators of tuples. -/
def tupleOperators : List String :=
  ["__add__", "__contains__", "__getitem__", "__iter__", "__len__", "__mul__", "__rmul__"]

/-- The functions of sets. -/
def setFunctions : List String :=
  ["add", "clear", "copy", "difference", "difference_update", "discard", "intersection",
   "intersection_update", "isdisjoint", "issubset", "issuperset", "pop", "remove",
   "symmetric_difference", "symmetric_difference_update", "union", "update", "__class_getitem__",
   "__contains__"]

/-- The operators of sets. -/
def setOperators : List String :=
  ["__and__", "__iand__", "__ior__", "__isub__", "__iter__", "__ixor__", "__len__", "__or__",
   "__rand__", "__ror__", "__rsub__", "__rxor__", "__sub__", "__xor__"]

/-- The functions of sets that do not change. -/
def frozenSetFunctions : List String :=
  ["copy", "difference", "intersection", "isdisjoint", "issubset", "issuperset",
   "symmetric_difference", "union", "__class_getitem__", "__contains__"]

/-- The operators of sets that do not change. -/
def frozenSetOperators : List String :=
  ["__and__", "__iter__", "__len__", "__or__", "__rand__", "__ror__", "__rsub__", "__rxor__",
   "__sub__", "__xor__"]

/-- The functions of byte strings. -/
def bytesFunctions : List String :=
  ["capitalize", "center", "count", "decode", "endswith", "expandtabs", "find", "fromhex", "hex",
   "index", "isalnum", "isalpha", "isascii", "isdigit", "islower", "isspace", "istitle", "isupper",
   "join", "ljust", "lower", "lstrip", "maketrans", "partition", "removeprefix", "removesuffix",
   "replace", "rfind", "rindex", "rjust", "rpartition", "rsplit", "rstrip", "split", "splitlines",
   "startswith", "strip", "swapcase", "title", "translate", "upper", "zfill", "__bytes__",
   "__getnewargs__"]

/-- The operators of byte strings. -/
def bytesOperators : List String :=
  ["__add__", "__contains__", "__getitem__", "__iter__", "__len__", "__mod__", "__mul__",
   "__rmod__", "__rmul__"]

/-- The functions of moments. -/
def momentFunctions : List String :=
  ["astimezone", "combine", "ctime", "date", "dst", "fromisocalendar", "fromisoformat",
   "fromordinal", "fromtimestamp", "isocalendar", "isoformat", "isoweekday", "now", "replace",
   "strftime", "strptime", "time", "timestamp", "timetuple", "timetz", "today", "toordinal",
   "tzname", "utcfromtimestamp", "utcnow", "utcoffset", "utctimetuple", "weekday"]

/-- The operators of moments. -/
def momentOperators : List String :=
  ["__add__", "__radd__", "__rsub__", "__sub__"]

/-- The functions of lengths of time. -/
def durationFunctions : List String :=
  ["total_seconds"]

/-- The operators of lengths of time. -/
def durationOperators : List String :=
  ["__abs__", "__add__", "__bool__", "__divmod__", "__floordiv__", "__mod__", "__mul__", "__neg__",
   "__pos__", "__radd__", "__rdivmod__", "__rfloordiv__", "__rmod__", "__rmul__", "__rsub__",
   "__rtruediv__", "__sub__", "__truediv__"]

/-- The functions of distances from universal time. -/
def zoneFunctions : List String :=
  ["dst", "fromutc", "tzname", "utcoffset", "__getinitargs__"]

/-- The functions of patterns. -/
def patternFunctions : List String :=
  ["findall", "finditer", "fullmatch", "match", "scanner", "search", "split", "sub", "subn",
   "__class_getitem__", "__copy__", "__deepcopy__"]

/-- The functions of mappings. -/
def mapFunctions : List String :=
  ["clear", "copy", "fromkeys", "get", "items", "keys", "pop", "popitem", "setdefault", "update",
   "values", "__class_getitem__", "__contains__", "__getitem__", "__reversed__"]

/-- The operators of mappings. -/
def mapOperators : List String :=
  ["__delitem__", "__ior__", "__iter__", "__len__", "__or__", "__ror__", "__setitem__"]

/-- The functions of addresses. -/
def urlFunctions : List String :=
  ["build", "encoded_string", "query_params", "serialize_url", "unicode_host", "unicode_string"]

/-- The functions of domain objects that check their fields. -/
def modelFunctions : List String :=
  ["construct", "copy", "dict", "from_orm", "json", "model_construct", "model_copy", "model_dump",
   "model_dump_json", "model_json_schema", "model_parametrized_name", "model_post_init",
   "model_rebuild", "model_validate", "model_validate_json", "model_validate_strings",
   "parse_file", "parse_obj", "parse_raw", "schema", "schema_json", "update_forward_refs",
   "validate"]

/-- The functions of the value's basic type, and those that its own class adds. -/
def functions : Value → List String × List String
  | .bool _ | .int _ | .long _ => (wholeFunctions, [])
  | .float _ => (realFunctions, [])
  | .text _ | .code .. => (textFunctions, [])
  | .list _ => (listFunctions, [])
  | .tuple _ => (tupleFunctions, [])
  | .map _ | .mapping .. => (mapFunctions, [])
  | .set false _ => (setFunctions, [])
  | .set true _ => (frozenSetFunctions, [])
  | .objectId _ => ([], ["from_datetime", "is_valid"])
  | .moment _ => (momentFunctions, [])
  | .duration _ => (durationFunctions, [])
  | .zone _ => (zoneFunctions, [])
  | .dbRef .. => ([], ["as_doc"])
  | .regex true .. => (patternFunctions, [])
  | .regex false .. => ([], ["from_native", "try_compile"])
  | .bytes none _ => (bytesFunctions, [])
  | .bytes (some _) _ => (bytesFunctions, ["as_uuid", "as_vector", "from_uuid", "from_vector"])
  | .decimal _ => ([], ["from_bid", "to_decimal"])
  | .timestamp .. => ([], ["as_datetime"])
  | .url _ => ([], urlFunctions)
  | .entity s _ => ([], if s.form == .model then modelFunctions else [])
  | _ => ([], [])

/-- The operators of a value that not every value has. -/
def operators : Value → List String
  | .bool _ | .int _ | .long _ => wholeOperators
  | .float _ => realOperators
  | .text _ | .code .. => textOperators
  | .list _ => listOperators
  | .tuple _ => tupleOperators
  | .map _ | .mapping .. => mapOperators
  | .set false _ => setOperators
  | .set true _ => frozenSetOperators
  | .moment _ => momentOperators
  | .duration _ => durationOperators
  | .bytes .. => bytesOperators
  | .url _ => ["__len__"]
  | .function => ["__call__", "__get__"]
  | .null => ["__bool__"]
  | _ => []

/-- Whether values of the type have no hash, whatever they hold. -/
def hasNoHash : Value → Bool
  | .tuple _ | .set true _ | .dbRef .. => false
  | v => !v.hashable

/-- The attributes of an object as a mapping, where they are kept in one. -/
def dictionary? : Value → Option Value
  | .record fs => some (entries fs)
  | .entity s fs => if s.form == .slotted then none else some (entries fs)
  | _ => none
where
  entries (fs : List (String × Value)) : Value := .map (fs.map fun f => (.text f.1, f.2))

/-- What is found under a name that the value shares with all of its type. -/
def find? (v : Value) (name : String) : Option Value :=
  let (own, added) := functions v
  if name = "__class__" then some (.kind v.typeName)
  else if name = "__dict__" then dictionary? v
  else if name = "__doc__" then some (.other "str")
  else if name = "__hash__" ∧ hasNoHash v then some .null
  else if name ∈ commonOperators ∨ name ∈ operators v then some (.other "method-wrapper")
  else if name ∈ commonFunctions ∨ name ∈ own then some (.other "builtin_function_or_method")
  else if name ∈ added then some (.other "method")
  else none

end LinkedDocs.Value.Member
