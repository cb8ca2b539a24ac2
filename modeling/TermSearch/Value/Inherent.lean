import TermSearch.Fault
import TermSearch.Value.Basic

/-!
# Attributes That Values Have of Themselves

Beside the attributes that records are given, every value has some of its own kind: its class, its
methods and operators, what is said of the kind, and the parts of a number. What they lead to may be
a value again. Otherwise it is an object that belongs to values and is none of the data. Of such an
object no more is told here than its kind, its name and its class. What else it has is left out and
counts as lacking, so what is found behind such objects is found here in part only.

## Main definitions

- `Value.inherent?`: an attribute that a value has of itself.
- `Reached.attribute?`: an attribute, given or not, of what attributes have led to.
-/

namespace TermSearch

/-- An object that belongs to values and is none of the data, by its name. -/
inductive Native where
  /-- The class of the values of a kind. -/
  | ofKind (name : String)
  | method (name : String)
  | operator (name : String)
  deriving DecidableEq, Repr

namespace Native

/-- The name of the kind of an object, as messages give it. -/
def typeName : Native → String
  | ofKind _ => "type"
  | method _ => "builtin_function_or_method"
  | operator _ => "method-wrapper"

/-- The name of an object. -/
def name : Native → String
  | ofKind name | method name | operator name => name

end Native

/-- What attributes lead to. -/
inductive Reached where
  | value (v : Value)
  | native (object : Native)

namespace Value

/-! ## Attributes of kinds -/

/-- The methods that every value has. -/
def commonMethods : List String := [
  "__dir__", "__format__", "__getstate__", "__init_subclass__", "__new__", "__reduce__",
  "__reduce_ex__", "__sizeof__", "__subclasshook__"]

/-- The operators that every value has. -/
def commonOperators : List String := [
  "__delattr__", "__eq__", "__ge__", "__getattribute__", "__gt__", "__hash__", "__init__", "__le__",
  "__lt__", "__ne__", "__repr__", "__setattr__", "__str__"]

/-- The methods that the values of a kind have beside those. -/
def ownMethods : Value → List String
  | bool _ | int _ => [
    "__ceil__", "__floor__", "__getnewargs__", "__round__", "__trunc__", "as_integer_ratio",
    "bit_count", "bit_length", "conjugate", "from_bytes", "to_bytes"]
  | decimal _ => [
    "__ceil__", "__floor__", "__getformat__", "__getnewargs__", "__round__", "__trunc__",
    "as_integer_ratio", "conjugate", "fromhex", "hex", "is_integer"]
  | text _ => [
    "__getnewargs__", "capitalize", "casefold", "center", "count", "encode", "endswith",
    "expandtabs", "find", "format", "format_map", "index", "isalnum", "isalpha", "isascii",
    "isdecimal", "isdigit", "isidentifier", "islower", "isnumeric", "isprintable", "isspace",
    "istitle", "isupper", "join", "ljust", "lower", "lstrip", "maketrans", "partition",
    "removeprefix", "removesuffix", "replace", "rfind", "rindex", "rjust", "rpartition", "rsplit",
    "rstrip", "split", "splitlines", "startswith", "strip", "swapcase", "title", "translate",
    "upper", "zfill"]
  | list _ => [
    "__class_getitem__", "__getitem__", "__reversed__", "append", "clear", "copy", "count",
    "extend", "index", "insert", "pop", "remove", "reverse", "sort"]
  | map _ => [
    "__class_getitem__", "__contains__", "__getitem__", "__reversed__", "clear", "copy",
    "fromkeys", "get", "items", "keys", "pop", "popitem", "setdefault", "update", "values"]
  | null | record _ => []

/-- The operators that the values of a kind have beside the common ones. -/
def ownOperators : Value → List String
  | null => ["__bool__"]
  | bool _ | int _ => [
    "__abs__", "__add__", "__and__", "__bool__", "__divmod__", "__float__", "__floordiv__",
    "__index__", "__int__", "__invert__", "__lshift__", "__mod__", "__mul__", "__neg__", "__or__",
    "__pos__", "__pow__", "__radd__", "__rand__", "__rdivmod__", "__rfloordiv__", "__rlshift__",
    "__rmod__", "__rmul__", "__ror__", "__rpow__", "__rrshift__", "__rshift__", "__rsub__",
    "__rtruediv__", "__rxor__", "__sub__", "__truediv__", "__xor__"]
  | decimal _ => [
    "__abs__", "__add__", "__bool__", "__divmod__", "__float__", "__floordiv__", "__int__",
    "__mod__", "__mul__", "__neg__", "__pos__", "__pow__", "__radd__", "__rdivmod__",
    "__rfloordiv__", "__rmod__", "__rmul__", "__rpow__", "__rsub__", "__rtruediv__", "__sub__",
    "__truediv__"]
  | text _ => [
    "__add__", "__contains__", "__getitem__", "__iter__", "__len__", "__mod__", "__mul__",
    "__rmod__", "__rmul__"]
  | list _ => [
    "__add__", "__contains__", "__delitem__", "__iadd__", "__imul__", "__iter__", "__len__",
    "__mul__", "__rmul__", "__setitem__"]
  | map _ => [
    "__delitem__", "__ior__", "__iter__", "__len__", "__or__", "__ror__", "__setitem__"]
  | record _ => []

/-- What is said of a kind of values, if anything is. -/
def kindText? : Value → Option String
  | null | record _ => none
  | bool _ => some <|
    "bool(x) -> bool\n\nReturns True when the argument x is true, False otherwise.\n" ++
    "The builtins True and False are the only two instances of the class bool.\n" ++
    "The class bool is a subclass of the class int, and cannot be subclassed."
  | int _ => some <|
    "int([x]) -> integer\nint(x, base=10) -> integer\n\n" ++
    "Convert a number or string to an integer, or return 0 if no arguments\n" ++
    "are given.  If x is a number, return x.__int__().  For floating point\n" ++
    "numbers, this truncates towards zero.\n\n" ++
    "If x is not a number or if base is given, then x must be a string,\n" ++
    "bytes, or bytearray instance representing an integer literal in the\n" ++
    "given base.  The literal can be preceded by '+' or '-' and be surrounded\n" ++
    "by whitespace.  The base defaults to 10.  Valid bases are 0 and 2-36.\n" ++
    "Base 0 means to interpret the base from the string as an integer literal.\n" ++
    ">>> int('0b100', base=0)\n4"
  | decimal _ => some "Convert a string or number to a floating point number, if possible."
  | text _ => some <|
    "str(object='') -> str\nstr(bytes_or_buffer[, encoding[, errors]]) -> str\n\n" ++
    "Create a new string object from the given object. If encoding or\n" ++
    "errors is specified, then the object must expose a data buffer\n" ++
    "that will be decoded using the given encoding and error handler.\n" ++
    "Otherwise, returns the result of object.__str__() (if defined)\nor repr(object).\n" ++
    "encoding defaults to sys.getdefaultencoding().\nerrors defaults to 'strict'."
  | list _ => some <|
    "Built-in mutable sequence.\n\n" ++
    "If no argument is given, the constructor creates a new empty list.\n" ++
    "The argument must be an iterable if specified."
  | map _ => some <|
    "dict() -> new empty dictionary\n" ++
    "dict(mapping) -> new dictionary initialized from a mapping object's\n" ++
    "    (key, value) pairs\n" ++
    "dict(iterable) -> new dictionary initialized as if via:\n" ++
    "    d = \x7b\x7d\n    for k, v in iterable:\n        d[k] = v\n" ++
    "dict(**kwargs) -> new dictionary initialized with the name=value pairs\n" ++
    "    in the keyword argument list.  For example:  dict(one=1, two=2)"

/-- The data that a value has in itself: the parts of a number, and what belongs to a record. Lists
and maps have no hash. -/
def innerFields : Value → Fields Value
  | bool b => integerParts (if b then 1 else 0)
  | int n => integerParts n
  | decimal d => [("real", decimal d), ("imag", decimal ⟨false, 0, 0⟩)]
  | list _ | map _ => [("__hash__", null)]
  | record attributes =>
    [("__dict__", map attributes), ("__module__", text "__main__"), ("__weakref__", null)]
  | null | text _ => []
where
  integerParts (n : Int) : Fields Value :=
    [("real", int n), ("imag", int 0), ("numerator", int n), ("denominator", int 1)]

/-- An attribute that a value has of itself. -/
def inherent? (v : Value) (name : String) : Option Reached :=
  if name = "__class__" then some (.native (.ofKind v.typeName))
  else if name = "__doc__" then some (.value (ofText? v.kindText?))
  else
    -- data come first: lists and maps have nothing where other values have the operator for hashing
    match Fields.get? v.innerFields name with
    | some inner => some (.value inner)
    | none =>
      if (v.ownOperators ++ commonOperators).contains name then some (.native (.operator name))
      else if (v.ownMethods ++ commonMethods).contains name then some (.native (.method name))
      else none

end Value

/-! ## What attributes lead to -/

namespace Reached

/-- The name of the kind of what was reached, as messages give it. -/
def typeName : Reached → String
  | value v => v.typeName
  | native object => object.typeName

/-- The attribute of what was reached. Those that a record was given come first. -/
def attribute? (name : String) : Reached → Option Reached
  | value v => ((v.attribute? name).map value).or (v.inherent? name)
  | native object =>
    if name = "__class__" then some (native (.ofKind object.typeName))
    else if name = "__name__" then some (value (.text object.name))
    else none

/-- What is said where an attribute is lacking. Classes are called by their names. -/
def lackText (name : String) : Reached → String
  | native (.ofKind kind) =>
    "type object '" ++ kind ++ "' has no attribute '" ++ name ++ "'"
  | reached => Fault.noAttributeText reached.typeName name

end Reached

end TermSearch
