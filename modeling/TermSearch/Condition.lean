import TermSearch.Comparison.Checks
import TermSearch.Predicate

/-!
# Conditions on Items

The conditions that a search is made of. A condition is an operation on terms, together with
the comparison and the placement in force when it was added, so that later settings of the
search do not reach it.

## Main definitions

- `Operation`: what a condition asks of the properties and the terms.
- `Condition.holds`: the predicate of a condition over the properties of a search.
-/

namespace TermSearch

open Text (Placement)

/-- What a condition asks of the properties and the terms. -/
inductive Operation where
  /-- Some property contains some term. -/
  | containing
  /-- Each term is contained in some property. -/
  | containingAll
  /-- Some property starts with some term. -/
  | startingWith
  /-- Some property ends with some term. -/
  | endingWith
  /-- Some property is some term. -/
  | equalTo
  deriving DecidableEq, Repr

namespace Operation

/-- All operations. -/
def all : List Operation :=
  [containing, containingAll, startingWith, endingWith, equalTo]

/-- The operation that is used where none is chosen. -/
def standard : Operation :=
  containing

/-- The word that chooses an operation. -/
def label : Operation → String
  | containing => "containing"
  | containingAll => "containing_all"
  | startingWith => "starts_with"
  | endingWith => "ends_with"
  | equalTo => "is_equal"

/-- The operation that a word chooses. -/
def ofLabel? (word : String) : Option Operation :=
  all.find? fun o => o.label == word

/-- The word of an operation chooses it. -/
theorem ofLabel?_label (o : Operation) : ofLabel? o.label = some o := by
  cases o <;> decide +kernel

/-- Only the word of an operation chooses it. -/
theorem label_of_ofLabel? {word : String} {o : Operation} (h : ofLabel? word = some o) :
    o.label = word := by
  simpa using List.find?_some h

/-- Whether blank terms are terms like others: only equality has a use for them. -/
def keepsBlank (operation : Operation) : Bool :=
  operation == equalTo

/-- What a search logs when it takes up a condition with so many terms. -/
def announcement (operation : Operation) (count : Nat) : String :=
  let counted := toString count ++ " term(s)"
  match operation with
  | containing => "containing " ++ counted
  | containingAll => "containing all of " ++ counted
  | startingWith => "starts with " ++ counted
  | endingWith => "ends with " ++ counted
  | equalTo => "is equal to " ++ counted

end Operation

/-- One condition of a search: an operation on terms, with the comparison and the placement
in force when it was added. -/
structure Condition where
  operation : Operation
  terms : List String
  comparison : Comparison
  placement : Placement
  deriving DecidableEq, Repr

namespace Condition

/-- The comparison of a value with a term that a condition uses. Only containment looks at the
placement. -/
def check (condition : Condition) : Check :=
  match condition.operation with
  | .containing | .containingAll => condition.comparison.contains condition.placement
  | .startingWith => condition.comparison.startsWith
  | .endingWith => condition.comparison.endsWith
  | .equalTo => condition.comparison.equals

/-- The predicate of a condition over the given properties. -/
def holds (condition : Condition) (accessors : List Accessor) : Predicate Event Value :=
  match condition.operation with
  | .containingAll => everyMatch condition.check accessors condition.terms
  | _ => someMatch condition.check accessors condition.terms

/-- Whether the terms of a condition are counted when items are ranked. -/
def isCounted (condition : Condition) : Bool :=
  match condition.operation with
  | .containing | .containingAll => true
  | _ => false

end Condition

end TermSearch
