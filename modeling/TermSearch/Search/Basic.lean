import TermSearch.Comparison.Choice
import TermSearch.Condition
import TermSearch.Selector
import TermSearch.Terms

/-!
# Searches

A search is built step by step: it begins with the properties to search and no condition,
and each step gives a new search with a changed setting or one more condition. A condition
keeps the comparison and the placement in force when it was added; later settings do not
reach back to it.

A search may be made over the items that another search yields. So a search is a stage of its
own, over any number of stages below it, the nearest one first.

## Main definitions

- `Stage.ofSelectors`: the stage that a search begins with.
- `Search.withComparison`, `Search.withPlacement`, `Search.filter`: the steps.
- `Search.call`: a step as data.
-/

namespace TermSearch

open Text (Placement)

/-- The properties that are searched, the settings for further conditions, and the conditions
so far. -/
structure Stage where
  accessors : List Accessor
  comparison : Comparison
  placement : Placement
  conditions : List Condition

/-- A search: its own stage, and the stages of the searches that it goes through, the nearest
one first. -/
structure Search where
  own : Stage
  below : List Stage

namespace Stage

/-- The stage that a search over the chosen properties begins with. -/
def ofSelectors (selectors : List Selector) (comparison placement : Value) :
    Except Fault Stage := do
  checkSelectors selectors
  let accessors ← selectors.mapM Selector.resolve
  let comparison ← Comparison.ofValue comparison
  let placement ← Placement.ofValue placement
  pure ⟨accessors, comparison, placement, []⟩

/-- The names of the searched properties. -/
def propertyNames (stage : Stage) : List String :=
  stage.accessors.map Accessor.label

/-- The logger of searches. -/
def loggerName : String := "fluent_search.core.search"

/-- What a search writes behind each message that it logs. -/
def logContext (stage : Stage) : LogContext := [
  ("properties", .text (",".intercalate stage.propertyNames)),
  ("comparison", .text stage.comparison.label)]

/-- The record of a message that a search logs. -/
def logRecord (stage : Stage) (message : String) : LogRecord :=
  ⟨.debug, loggerName, stage.logContext.annotate message⟩

/-- Whether the item satisfies the conditions of the stage. -/
def accepts (stage : Stage) : Predicate Event Value :=
  allOf (stage.conditions.map fun condition => condition.holds stage.accessors)

end Stage

/-- One step in the building of a search. -/
inductive Call where
  | setComparison (v : Value)
  | setPlacement (v : Value)
  | filter (operation : Operation) (terms : List Value)

namespace Search

/-- The search over a source of items, without conditions. -/
def start (stage : Stage) : Search :=
  ⟨stage, []⟩

/-- The search over the items that another search yields, without conditions of its own. -/
def narrow (inner : Search) (stage : Stage) : Search :=
  ⟨stage, inner.own :: inner.below⟩

/-- The search with another comparison for the conditions that follow. -/
def withComparison (s : Search) (comparison : Comparison) : Search :=
  { s with own := { s.own with comparison } }

/-- The search with another placement for the conditions that follow. -/
def withPlacement (s : Search) (placement : Placement) : Search :=
  { s with own := { s.own with placement } }

/-- The condition that the search would take up now. -/
def condition (s : Search) (operation : Operation) (terms : List String) : Condition :=
  ⟨operation, terms, s.own.comparison, s.own.placement⟩

/-- The search with one more condition. -/
def addCondition (s : Search) (condition : Condition) : Search :=
  { s with own := { s.own with conditions := s.own.conditions ++ [condition] } }

/-- Adds a condition on the given terms, once they are found to be usable, and logs it. -/
def filter (s : Search) (operation : Operation) (terms : List Value) : Traced Event Search := do
  let terms ← Traced.ofExcept (Terms.validate operation.keepsBlank (.list terms))
  Traced.record (.logged (s.own.logRecord (operation.announcement terms.length)))
  pure (s.addCondition (s.condition operation terms))

/-- Takes one step. -/
def call (s : Search) : Call → Traced Event Search
  | .setComparison v => .ofExcept ((Comparison.ofValue v).map s.withComparison)
  | .setPlacement v => .ofExcept ((Placement.ofValue v).map s.withPlacement)
  | .filter operation terms => s.filter operation terms

/-- Takes steps one after the other, up to the first that fails. -/
def callAll (s : Search) : List Call → Traced Event Search
  | [] => pure s
  | step :: rest => do
    let next ← s.call step
    next.callAll rest

/-- The written form of a search. -/
def describe (s : Search) : String :=
  "StringSearch(properties=[" ++ ", ".intercalate s.own.propertyNames ++ "], steps=" ++
    toString s.own.conditions.length ++ ", comparison=" ++ s.own.comparison.label ++ ")"

end Search

end TermSearch
