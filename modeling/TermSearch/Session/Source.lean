import TermSearch.Search.Traversal

/-!
# Sources of Items

Where a search takes its items from. A list can be gone through any number of times, and each
time its items are those that it has then. A stream goes along a list by position and can be
gone through once: whoever takes items from it takes them from all others. Any value that
yields elements can be a source as well.
-/

namespace TermSearch

/-- A source of items. -/
inductive Source where
  | list (items : List Value)
  /-- A stream over a list, with the number of items taken so far. Once it has ended it stays
  ended, even if the list grows. -/
  | stream (items : List Value) (taken : Nat) (hasEnded : Bool)
  /-- Any other value that yields elements, or none. -/
  | fixed (v : Value)

namespace Source

/-- The items behind the first `position`, where a stream goes by the items taken from it
instead. -/
def remaining (source : Source) (position : Nat) : Except Fault (List Value) :=
  match source with
  | list items => .ok (items.drop position)
  | stream items taken hasEnded => .ok (if hasEnded then [] else items.drop taken)
  | fixed v => v.sourceElements.map fun elements => elements.drop position

/-- The source after more items were taken from it, perhaps to its end. -/
def take (source : Source) (count : Nat) (atEnd : Bool) : Source :=
  match source with
  | stream items taken hasEnded => stream items (taken + count) (hasEnded || atEnd)
  | other => other

/-- The list behind a source; a fixed value has none that could change. -/
def items : Source → List Value
  | list items => items
  | stream items _ _ => items
  | fixed _ => []

/-- The source with another list behind it. -/
def withItems (source : Source) (items : List Value) : Source :=
  match source with
  | list _ => list items
  | stream _ taken hasEnded => stream items taken hasEnded
  | fixed v => fixed v

/-- The source that a value is: a list is one that can change. -/
def ofValue : Value → Source
  | .list items => list items
  | v => fixed v

end Source

end TermSearch
