import TermSearch.Accessor
import TermSearch.Text.Blank

/-!
# Choosing Properties

The values by which callers choose the properties to search: names, extractors, and accessors
made before. A name must not be blank, and values of other kinds choose no property.

## Main definitions

- `Selector.resolve`: the accessor that a choice stands for.
- `Selector.check`, `checkSelectors`: whether choices can be resolved.
-/

namespace TermSearch

/-- A caller's choice of a property. -/
inductive Selector where
  | named (name : String)
  | computed (extractor : Extractor)
  | accessor (accessor : Accessor)
  /-- A value that chooses no property. -/
  | other (v : Value)

namespace Accessor

/-- The accessor built from a choice. Building one from an accessor wraps it. -/
def ofSelector : Selector → Except Fault Accessor
  | .named name => if Text.isBlank name then .error .blankProperty else .ok (named name)
  | .computed extractor => .ok (computed extractor)
  | .accessor inner => .ok (wrapped inner)
  | .other v => .error (.invalidSelector v.typeName)

end Accessor

namespace Selector

/-- The choice that a value makes: a text names a property. -/
def ofValue : Value → Selector
  | .text s => named s
  | v => other v

/-- The name of the kind of a choice, as messages give it. -/
def typeName : Selector → String
  | named name => (Value.text name).typeName
  | computed _ => "function"
  | accessor _ => "PropertyAccessor"
  | other v => v.typeName

/-- The accessor that a choice stands for. An accessor stands for itself. -/
def resolve : Selector → Except Fault Accessor
  | accessor a => .ok a
  | selector => Accessor.ofSelector selector

/-- Whether a choice can be resolved, and the fault if it cannot. -/
def check : Selector → Except Fault Unit
  | named name => if Text.isBlank name then .error .blankProperty else .ok ()
  | computed _ => .ok ()
  | accessor _ => .ok ()
  | other v => .error (.invalidSelector v.typeName)

end Selector

/-- The first fault among the choices, if any. -/
def checkEach : List Selector → Except Fault Unit
  | [] => .ok ()
  | selector :: rest =>
    match selector.check with
    | .ok () => checkEach rest
    | .error fault => .error fault

/-- Whether the choices can be searched over: there is one, and all can be resolved. -/
def checkSelectors (selectors : List Selector) : Except Fault Unit :=
  if selectors.isEmpty then .error .noProperties else checkEach selectors

/-- Whether a choice can be searched over that is given where a list of them is due: it stands
for the choices that it yields. A name yields its characters; extractors and accessors yield
nothing. -/
def checkSelection : Selector → Except Fault Unit
  | .named name => checkSelectors (name.toList.map fun c => .named (String.singleton c))
  | .other v =>
    if v.isTruthy then
      match v.elements? with
      | some elements => checkEach (elements.map Selector.ofValue)
      | none => .error (.notIterable v.typeName)
    else .error .noProperties
  | selector => .error (.notIterable selector.typeName)

end TermSearch
