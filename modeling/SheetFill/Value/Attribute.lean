import SheetFill.Value.Text

/-!
# Attributes

What stands under a name in a value that is no mapping. An object has its fields and a date its
parts. All values have operations besides, which belong to their kind: those of operators and
functions under names of their own. An operation can neither be gone through nor be stored.
-/
namespace SheetFill.Value

/-! ## Operations -/

def commonOperators : List String :=
  ["__delattr__", "__eq__", "__ge__", "__getattribute__", "__gt__", "__init__", "__le__", "__lt__",
    "__ne__", "__repr__", "__setattr__", "__str__"]

def commonFunctions : List String :=
  ["__dir__", "__format__", "__getstate__", "__init_subclass__", "__new__", "__reduce__",
    "__reduce_ex__", "__sizeof__", "__subclasshook__"]

def durationOperators : List String :=
  ["__abs__", "__add__", "__bool__", "__divmod__", "__floordiv__", "__mod__", "__mul__", "__neg__",
    "__pos__", "__radd__", "__rdivmod__", "__rfloordiv__", "__rmod__", "__rmul__", "__rsub__",
    "__rtruediv__", "__sub__", "__truediv__"]

def realOperators : List String :=
  durationOperators ++ ["__float__", "__int__", "__pow__", "__rpow__"]

def wholeOperators : List String :=
  realOperators ++
    ["__and__", "__index__", "__invert__", "__lshift__", "__or__", "__rand__", "__rlshift__",
      "__ror__", "__rrshift__", "__rshift__", "__rxor__", "__xor__"]

def tupleOperators : List String :=
  ["__add__", "__contains__", "__getitem__", "__iter__", "__len__", "__mul__", "__rmul__"]

def listOperators : List String :=
  ["__add__", "__contains__", "__delitem__", "__iadd__", "__imul__", "__iter__", "__len__",
    "__mul__", "__rmul__", "__setitem__"]

def setOperators : List String :=
  ["__and__", "__iand__", "__ior__", "__isub__", "__iter__", "__ixor__", "__len__", "__or__",
    "__rand__", "__ror__", "__rsub__", "__rxor__", "__sub__", "__xor__"]

/-- The operations of operators that values of one kind have and not all. -/
def operators : Value → List String
  | .null => ["__bool__"]
  | .bool _ | .int _ => wholeOperators
  | .real _ | .undefined _ => realOperators
  | .text _ | .bytes _ => tupleOperators ++ ["__mod__", "__rmod__"]
  | .date _ | .dateTime _ => ["__add__", "__radd__", "__rsub__", "__sub__"]
  | .duration _ => durationOperators
  | .list _ => listOperators
  | .tuple _ => tupleOperators
  | .set _ => setOperators
  | _ => []

def numberFunctions : List String :=
  ["__ceil__", "__floor__", "__getnewargs__", "__round__", "__trunc__", "as_integer_ratio",
    "conjugate"]

def wholeFunctions : List String :=
  numberFunctions ++ ["bit_count", "bit_length", "from_bytes", "to_bytes"]

def realFunctions : List String :=
  numberFunctions ++ ["__getformat__", "fromhex", "hex", "is_integer"]

/-- The functions of texts and octets alike. -/
def stringFunctions : List String :=
  ["__getnewargs__", "capitalize", "center", "count", "endswith", "expandtabs", "find", "index",
    "isalnum", "isalpha", "isascii", "isdigit", "islower", "isspace", "istitle", "isupper", "join",
    "ljust", "lower", "lstrip", "maketrans", "partition", "removeprefix", "removesuffix", "replace",
    "rfind", "rindex", "rjust", "rpartition", "rsplit", "rstrip", "split", "splitlines",
    "startswith", "strip", "swapcase", "title", "translate", "upper", "zfill"]

def textFunctions : List String :=
  stringFunctions ++
    ["casefold", "encode", "format", "format_map", "isdecimal", "isidentifier", "isnumeric",
      "isprintable"]

def octetFunctions : List String :=
  stringFunctions ++ ["__bytes__", "decode", "fromhex", "hex"]

def dateFunctions : List String :=
  ["ctime", "fromisocalendar", "fromisoformat", "fromordinal", "fromtimestamp", "isocalendar",
    "isoformat", "isoweekday", "replace", "strftime", "timetuple", "today", "toordinal", "weekday"]

def dateTimeFunctions : List String :=
  dateFunctions ++
    ["astimezone", "combine", "date", "dst", "now", "strptime", "time", "timestamp", "timetz",
      "tzname", "utcfromtimestamp", "utcnow", "utcoffset", "utctimetuple"]

def timeFunctions : List String :=
  ["dst", "fromisoformat", "isoformat", "replace", "strftime", "tzname", "utcoffset"]

def listFunctions : List String :=
  ["__class_getitem__", "__getitem__", "__reversed__", "append", "clear", "copy", "count",
    "extend", "index", "insert", "pop", "remove", "reverse", "sort"]

def setFunctions : List String :=
  ["__class_getitem__", "__contains__", "add", "clear", "copy", "difference", "difference_update",
    "discard", "intersection", "intersection_update", "isdisjoint", "issubset", "issuperset", "pop",
    "remove", "symmetric_difference", "symmetric_difference_update", "union", "update"]

def functions : Value → List String
  | .bool _ | .int _ => wholeFunctions
  | .real _ | .undefined _ => realFunctions
  | .text _ => textFunctions
  | .bytes _ => octetFunctions
  | .date _ => dateFunctions
  | .dateTime _ => dateTimeFunctions
  | .time _ => timeFunctions
  | .duration _ => ["total_seconds"]
  | .list _ => listFunctions
  | .tuple _ => ["__class_getitem__", "__getnewargs__", "count", "index"]
  | .set _ => setFunctions
  | _ => []

/-- The functions that belong to the kind itself rather than to a value of it. -/
def kindFunctions : List String :=
  ["__class_getitem__", "__getformat__", "__init_subclass__", "__new__", "__subclasshook__",
    "combine", "from_bytes", "fromhex", "fromisocalendar", "fromisoformat", "fromordinal",
    "fromtimestamp", "maketrans", "now", "strptime", "today", "utcfromtimestamp", "utcnow"]

/-- A value of a kind that no data has: it is true, and no cell can store it. Where it stands in
memory is left out of what is shown. -/
def operator (owner : Value) (name : String) : Value :=
  .other "method-wrapper" ("<method-wrapper '" ++ name ++ "' of " ++ owner.kindName ++ " object>")

def function (owner : Value) (name : String) : Value :=
  let kind := if kindFunctions.contains name then "type" else owner.kindName
  .other "builtin_function_or_method" ("<built-in method " ++ name ++ " of " ++ kind ++ " object>")

def operation? (owner : Value) (name : Text) : Option Value :=
  match (commonOperators ++ operators owner).find? (fun (n : String) => (n : Text) == name) with
  | some n => some (operator owner n)
  | none =>
    ((commonFunctions ++ functions owner).find? (fun (n : String) => (n : Text) == name)).map
      (function owner)

/-! ## Parts -/

def note? : Value → Option String
  | .bool _ => some <| "bool(x) -> bool\n\n" ++
    "Returns True when the argument x is true, False otherwise.\n" ++
    "The builtins True and False are the only two instances of the class bool.\n" ++
    "The class bool is a subclass of the class int, and cannot be subclassed."
  | .int _ => some <| "int([x]) -> integer\nint(x, base=10) -> integer\n\n" ++
    "Convert a number or string to an integer, or return 0 if no arguments\n" ++
    "are given.  If x is a number, return x.__int__().  For floating point\n" ++
    "numbers, this truncates towards zero.\n\n" ++
    "If x is not a number or if base is given, then x must be a string,\n" ++
    "bytes, or bytearray instance representing an integer literal in the\n" ++
    "given base.  The literal can be preceded by '+' or '-' and be surrounded\n" ++
    "by whitespace.  The base defaults to 10.  Valid bases are 0 and 2-36.\n" ++
    "Base 0 means to interpret the base from the string as an integer literal.\n" ++
    ">>> int('0b100', base=0)\n4"
  | .real _ | .undefined _ =>
    some "Convert a string or number to a floating point number, if possible."
  | .text _ => some <| "str(object='') -> str\n" ++
    "str(bytes_or_buffer[, encoding[, errors]]) -> str\n\n" ++
    "Create a new string object from the given object. If encoding or\n" ++
    "errors is specified, then the object must expose a data buffer\n" ++
    "that will be decoded using the given encoding and error handler.\n" ++
    "Otherwise, returns the result of object.__str__() (if defined)\nor repr(object).\n" ++
    "encoding defaults to sys.getdefaultencoding().\nerrors defaults to 'strict'."
  | .bytes _ => some <| "bytes(iterable_of_ints) -> bytes\n" ++
    "bytes(string, encoding[, errors]) -> bytes\n" ++
    "bytes(bytes_or_buffer) -> immutable copy of bytes_or_buffer\n" ++
    "bytes(int) -> bytes object of size given by the parameter initialized with null bytes\n" ++
    "bytes() -> empty bytes object\n\nConstruct an immutable array of bytes from:\n" ++
    "  - an iterable yielding integers in range(256)\n" ++
    "  - a text string encoded using the specified encoding\n" ++
    "  - any object implementing the buffer API.\n  - an integer"
  | .date _ => some "date(year, month, day) --> date object"
  | .dateTime _ => some <|
    "datetime(year, month, day[, hour[, minute[, second[, microsecond[,tzinfo]]]]])\n\n" ++
    "The year, month and day arguments are required. tzinfo may be None, or an\n" ++
    "instance of a tzinfo subclass. The remaining arguments may be ints.\n"
  | .time _ => some <|
    "time([hour[, minute[, second[, microsecond[, tzinfo]]]]]) --> a time object\n\n" ++
    "All arguments are optional. tzinfo may be None, or an instance of\n" ++
    "a tzinfo subclass. The remaining arguments may be ints.\n"
  | .duration _ => some <| "Difference between two datetime values.\n\n" ++
    "timedelta(days=0, seconds=0, microseconds=0, milliseconds=0, minutes=0, hours=0, weeks=0)" ++
    "\n\nAll arguments are optional and default to 0.\n" ++
    "Arguments may be integers or floats, and may be positive or negative."
  | .list _ => some <| "Built-in mutable sequence.\n\n" ++
    "If no argument is given, the constructor creates a new empty list.\n" ++
    "The argument must be an iterable if specified."
  | .tuple _ => some <| "Built-in immutable sequence.\n\n" ++
    "If no argument is given, the constructor returns an empty tuple.\n" ++
    "If iterable is specified the tuple is initialized from iterable's items.\n\n" ++
    "If the argument is a tuple, the return value is the same object."
  | .set _ => some <| "set() -> new empty set object\nset(iterable) -> new set object\n\n" ++
    "Build an unordered collection of unique elements."
  | .object _ => some "A simple attribute-based namespace.\n\nSimpleNamespace(**kwargs)"
  | _ => none

def wholeParts (n : Int) : List (Text × Value) :=
  [("real", .int n), ("imag", .int 0), ("numerator", .int n), ("denominator", .int 1)]

def realParts (x : Value) : List (Text × Value) :=
  [("real", x), ("imag", .real (.zero false))]

def dateParts (d : Calendar.Date) : List (Text × Value) :=
  [("year", .int d.year), ("month", .int d.month), ("day", .int d.day)]

/-- The zone of a time is no data but tells its distance from universal time. -/
def timeParts (t : Calendar.Time) : List (Text × Value) :=
  [("hour", .int t.hour), ("minute", .int t.minute), ("second", .int t.second),
    ("microsecond", .int t.micro), ("fold", .int 0),
    ("tzinfo", match t.offset with
      | some o => .other "datetime.timezone" (Calendar.zoneShown o)
      | none => .null)]

def durationParts (d : Calendar.Duration) : List (Text × Value) :=
  let (days, seconds, micro) := d.parts
  [("days", .int days), ("seconds", .int seconds), ("microseconds", .int micro)]

def bounds (least greatest : Value) (distance : Calendar.Duration) : List (Text × Value) :=
  [("min", least), ("max", greatest), ("resolution", .duration distance)]

/-- What all values have that is no operation of all. -/
def commonParts (owner : Value) : List (Text × Value) :=
  [("__class__", .other "type" ("<class '" ++ owner.kindName ++ "'>")),
    ("__doc__", match note? owner with
      | some note => .text note
      | none => .null),
    ("__hash__", match owner with
      | .list _ | .set _ | .object _ => .null
      | _ => operator owner "__hash__")]

/-- What values of one kind have that is no operation; the fields of an object are not among it. -/
def parts (owner : Value) : List (Text × Value) :=
  match owner with
  | .bool b => wholeParts (if b then 1 else 0)
  | .int n => wholeParts n
  | .real x => realParts (.real x)
  | .undefined id => realParts (.undefined id)
  | .date d => dateParts d ++
    bounds (.date ⟨1, 1, 1⟩) (.date ⟨9999, 12, 31⟩) ⟨86400000000⟩
  | .dateTime t => dateParts t.date ++ timeParts t.time ++
    bounds (.dateTime ⟨⟨1, 1, 1⟩, .midnight⟩) (.dateTime ⟨⟨9999, 12, 31⟩, .last⟩) ⟨1⟩
  | .time t => timeParts t ++ bounds (.time .midnight) (.time .last) ⟨1⟩
  | .duration d => durationParts d ++
    bounds (.duration ⟨-999999999 * 86400000000⟩) (.duration ⟨1000000000 * 86400000000 - 1⟩) ⟨1⟩
  | .object fields => [("__dict__", .map (fields.map fun (name, v) => (.text name, v)))]
  | _ => []

/-- What stands in a value under a name, whether its kind or it itself brings it. -/
def ownAttribute? (owner : Value) (name : Text) : Option Value :=
  (field? (commonParts owner ++ parts owner) name).or (operation? owner name)

/-- The names under which no field of an object is found. -/
def reserved : List Text := ["__class__", "__dict__"]

/-- What stands in a value under a name. The fields of an object come before what it has in common
with others, but for the reserved names. Of a stream it is not known what it is made of. -/
def attribute? (owner : Value) (name : Text) : Option Value :=
  match owner with
  | .object fields =>
    if reserved.contains name then ownAttribute? owner name
    else (field? fields name).or (ownAttribute? owner name)
  | v => ownAttribute? v name

end SheetFill.Value
