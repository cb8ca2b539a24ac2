import TermSearch.Value.Decimal
import TermSearch.Value.Fields

/-!
# Values

The data that is searched and the arguments that callers pass: scalars, lists, maps from
names to values, and records with named attributes. A map is read by key; a record is read
along a path of attributes.
-/

namespace TermSearch

/-- A datum of any kind. -/
inductive Value where
  | null
  | bool (b : Bool)
  | int (n : Int)
  | decimal (d : Decimal)
  | text (s : String)
  | list (elements : List Value)
  | map (entries : List (String × Value))
  | record (attributes : List (String × Value))
  deriving Inhabited

namespace Value

/-- The name of the kind of a value, as messages give it. -/
def typeName : Value → String
  | null => "NoneType"
  | bool _ => "bool"
  | int _ => "int"
  | decimal _ => "float"
  | text _ => "str"
  | list _ => "list"
  | map _ => "dict"
  | record _ => "Item"

/-- The text or null that an optional text stands for. -/
def ofText? : Option String → Value
  | some s => text s
  | none => null

/-- What a value yields when it is gone through: a text its characters, a list its elements,
a map its keys. Other values cannot be gone through. -/
def elements? : Value → Option (List Value)
  | text s => some (s.toList.map fun c => text (String.singleton c))
  | list elements => some elements
  | map entries => some (entries.map fun (key, _) => text key)
  | _ => none

/-- Whether a value counts as something: null, false, zero and what is empty do not. -/
def isTruthy : Value → Bool
  | null => false
  | bool b => b
  | int n => n != 0
  | decimal d => !d.isZero
  | text s => !s.isEmpty
  | list elements => !elements.isEmpty
  | map entries => !entries.isEmpty
  | record _ => true

/-- The names by which records are known to themselves. None of them can be given to a record as an
attribute. -/
def reservedNames : List String := ["__class__", "__dict__", "__weakref__"]

/-- The attribute that a record was given. -/
def attribute? (name : String) : Value → Option Value
  | record attributes =>
    if reservedNames.contains name then none else Fields.get? attributes name
  | _ => none

/-- The entry of a map or the attribute of a record. -/
def field? (name : String) : Value → Option Value
  | map entries => Fields.get? entries name
  | record attributes => Fields.get? attributes name
  | _ => none

/-- Sets the entry of a map or the attribute of a record. Other values have none and stay. -/
def setField (name : String) (value : Value) : Value → Value
  | map entries => map (Fields.put name value entries)
  | record attributes => record (Fields.put name value attributes)
  | other => other

end Value

end TermSearch
