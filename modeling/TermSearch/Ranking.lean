import TermSearch.Search.Traversal

/-!
# Ranking

How often an item is hit by a search: every term of every condition on containment is counted
in every property, with the comparison and the placement of the condition. A property without
a value holds nothing.

## Main definitions

- `Search.countHits`: the hits of an item.
- `Search.ranked`: the items that a search yields, each with its hits.
- `Search.rankedByHits`: the same, most hits first; items with equal hits keep their order.
-/

namespace TermSearch

/-- An item with the number of its hits. -/
structure RankedItem where
  hits : Nat
  item : Value

/-- Whether a value may stand as a number of hits: it is a number and not below zero. -/
def checkHits (v : Value) : Except Fault Unit :=
  match v with
  | .bool _ => .ok ()
  | .int n => if n < 0 then .error .negativeHits else .ok ()
  | .decimal d => if d.isBelowZero then .error .negativeHits else .ok ()
  | other => .error (.hitsNotNumeric other.typeName)

/-- The occurrences of all terms of a condition in a value. -/
def Condition.countIn (condition : Condition) (value : Option String) : Nat :=
  condition.terms.foldr (fun term hits =>
    condition.comparison.countOccurrences condition.placement value term + hits) 0

namespace Search

/-- The conditions whose terms are counted. -/
def counted (s : Search) : List Condition :=
  s.own.conditions.filter Condition.isCounted

/-- The hits of a value. -/
def hitsIn (s : Search) (value : Option String) : Nat :=
  s.counted.foldr (fun condition hits => condition.countIn value + hits) 0

/-- The hits of an item in the given properties, all of which are read. -/
def countHitsOver (s : Search) (item : Value) : List Accessor → Traced Event Nat
  | [] => pure 0
  | accessor :: rest => do
    let value ← accessor.read item
    let more ← s.countHitsOver item rest
    pure (s.hitsIn value + more)

/-- The hits of an item in all properties of the search. -/
def countHits (s : Search) (item : Value) : Traced Event Nat :=
  s.countHitsOver item s.own.accessors

/-- An item with its hits, once they are found to be a number of hits. -/
def rank (s : Search) (item : Value) : Traced Event RankedItem := do
  let hits ← s.countHits item
  Traced.ofExcept (checkHits (.int hits))
  pure ⟨hits, item⟩

/-- The items that the search yields, each with its hits. -/
def ranked (s : Search) (source : Except Fault (List Value)) :
    Traced Event (List RankedItem) :=
  s.traverse s.rank source

/-- The logger of rankings. -/
def rankingLogger : String := "fluent_search.core.ranking"

/-- The record of a finished ranking. -/
def rankingRecord (count : Nat) : LogRecord :=
  ⟨.debug, rankingLogger, "Ranked " ++ toString count ++ " results"⟩

/-- Puts ranked items into the order of falling hits; equal hits keep their order. -/
def orderByHits (results : List RankedItem) : List RankedItem :=
  results.mergeSort fun a b => decide (b.hits ≤ a.hits)

/-- The items that the search yields, most hits first. -/
def rankedByHits (s : Search) (source : Except Fault (List Value)) :
    Traced Event (List RankedItem) := do
  let results ← s.ranked source
  Traced.record (.logged (rankingRecord results.length))
  pure (orderByHits results)

end Search

end TermSearch
