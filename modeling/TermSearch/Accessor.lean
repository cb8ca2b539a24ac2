import TermSearch.Event
import TermSearch.Value.Inherent

/-!
# Properties of Items

How a searched property is read. A property is named, or computed by the caller's
own extractor. A named property is an entry of an item that is a map, under the whole name,
and otherwise what a path of attributes leads to, one for each part of the name between dots. These
are the attributes that records were given, and also those that values have of themselves.

Reading a property gives a text or nothing. An item that lacks an attribute, and what is no text,
are faults of the search; other failures of an extractor pass through.

## Main definitions

- `Extractor`: a caller's own way to read a property.
- `Accessor.lookup`: what a named property of an item is.
- `Accessor.read`: reading a property of an item.
-/

namespace TermSearch

/-- A caller's own way to read a property, with the name that it goes by. -/
structure Extractor where
  label : String
  extract : Value → Except Failure Value

namespace Extractor

/-- Reads a field of the item, and nothing where there is none. -/
def field (label name : String) : Extractor :=
  ⟨label, fun item => .ok ((item.field? name).getD .null)⟩

/-- Joins those of the fields that are texts. -/
def join (label : String) (names : List String) (separator : String) : Extractor :=
  ⟨label, fun item =>
    let texts := names.filterMap fun name =>
      match item.field? name with
      | some (.text s) => some s
      | _ => none
    .ok (.text (separator.intercalate texts))⟩

/-- Reads the item itself. -/
def whole (label : String) : Extractor :=
  ⟨label, .ok⟩

/-- Reads the same value from every item. -/
def constant (label : String) (v : Value) : Extractor :=
  ⟨label, fun _ => .ok v⟩

/-- Fails on every item. -/
def failing (label : String) (failure : Failure) : Extractor :=
  ⟨label, fun _ => .error failure⟩

end Extractor

/-- A way to read one property of an item. -/
inductive Accessor where
  | named (name : String)
  | computed (extractor : Extractor)
  /-- Reads through another accessor. -/
  | wrapped (inner : Accessor)

namespace Accessor

/-- The name that a property goes by, and the written form of its accessor. -/
def label : Accessor → String
  | named name => name
  | computed extractor => extractor.label
  | wrapped inner => "PropertyAccessor(" ++ Text.quoted inner.label ++ ")"

/-- The written form of an accessor. -/
def describe (accessor : Accessor) : String :=
  "PropertyAccessor(" ++ Text.quoted accessor.label ++ ")"

/-- The parts of a name between its dots. -/
def pathParts : List Char → List (List Char)
  | [] => [[]]
  | c :: rest =>
    if c = '.' then [] :: pathParts rest
    else
      match pathParts rest with
      | [] => [[c]]
      | part :: parts => (c :: part) :: parts

/-- The path of attributes that a name stands for. -/
def path (name : String) : List String :=
  (pathParts name.toList).map String.ofList

/-- Follows a path of attributes; the first part that is lacking is the failure. -/
def follow : Reached → List String → Except Failure Reached
  | reached, [] => .ok reached
  | reached, part :: rest =>
    match reached.attribute? part with
    | some next => follow next rest
    | none => .error (.missingAttribute (reached.lackText part))

/-- What a named property of an item is. -/
def lookup (name : String) : Value → Except Failure Reached
  | .map entries => .ok (.value ((Fields.get? entries name).getD .null))
  | item => follow (.value item) (path name)

/-- Makes what was found for a property into a text or nothing. -/
def settle (label : String) (found : Except Fault Reached) : Except Fault (Option String) :=
  match found with
  | .ok (.value .null) => .ok none
  | .ok (.value (.text s)) => .ok (some s)
  | .ok reached => .error (.propertyNotText label reached.typeName)
  | .error (.failed (.missingAttribute reason)) => .error (.unreadable label reason)
  | .error fault => .error fault

/-- Reads the property of an item. Asking an extractor is an event. -/
def read : Accessor → Value → Traced Event (Option String)
  | named name, item => .ofExcept (settle name ((lookup name item).mapError .failed))
  | computed extractor, item => do
    Traced.record (.read extractor.label item)
    Traced.ofExcept
      (settle extractor.label (((extractor.extract item).map .value).mapError .failed))
  | wrapped inner, item =>
    (inner.read item).mapResult fun result =>
      settle (wrapped inner).label (result.map fun found => .value (Value.ofText? found))

end Accessor

end TermSearch
