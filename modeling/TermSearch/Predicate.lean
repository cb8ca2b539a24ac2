import TermSearch.Accessor

/-!
# Predicates on Items

Predicates over the properties of items. They are evaluated from left to right and no further
than needed: `someMatch` reads property after property and holds each value against the terms,
until one pair matches; `everyMatch` does this once for each term. Each comparison of a value
with a term is recorded as an event, between the reads.

## Main definitions

- `anyOf`, `allOf`: disjunction and conjunction of predicates.
- `someMatch`, `everyMatch`: the predicates over properties and terms.
-/

namespace TermSearch

/-- A predicate whose evaluation records events and may end in a fault. -/
abbrev Predicate (ε α : Type) := α → Traced ε Bool

/-- Whether one of the predicates holds, tried in order up to the first that does. -/
def anyOf {ε α : Type} : List (Predicate ε α) → Predicate ε α
  | [], _ => pure false
  | predicate :: rest, a => do
    if ← predicate a then pure true else anyOf rest a

/-- Whether all of the predicates hold, tried in order up to the first that does not. -/
def allOf {ε α : Type} : List (Predicate ε α) → Predicate ε α
  | [], _ => pure true
  | predicate :: rest, a => do
    if ← predicate a then allOf rest a else pure false

/-- A comparison of the value of a property with a term. -/
abbrev Check := Option String → String → Bool

/-- Whether one of the terms matches the value, tried in order up to the first that does. -/
def matchTerms (check : Check) (value : Option String) : List String → Traced Event Bool
  | [] => pure false
  | term :: rest => do
    Traced.record (.compared value term (check value term))
    if check value term then pure true else matchTerms check value rest

/-- Whether a property of the item matches one of the terms. -/
def propertyMatch (check : Check) (terms : List String) (accessor : Accessor) :
    Predicate Event Value := fun item => do
  let value ← accessor.read item
  matchTerms check value terms

/-- Whether some property of the item matches some term. -/
def someMatch (check : Check) (accessors : List Accessor) (terms : List String) :
    Predicate Event Value :=
  anyOf (accessors.map (propertyMatch check terms))

/-- Whether each term is matched by some property of the item. -/
def everyMatch (check : Check) (accessors : List Accessor) (terms : List String) :
    Predicate Event Value :=
  allOf (terms.map fun term => someMatch check accessors [term])

end TermSearch
