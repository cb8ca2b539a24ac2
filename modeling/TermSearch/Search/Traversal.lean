import TermSearch.Search.Basic

/-!
# Going Through a Search

How a search yields its items. Evaluation is announced in the log by every stage that has
conditions, the outermost first. Then the items of the source are taken one at a time, and
each one is tried by the stages from the innermost outwards before the next one is taken.

## Main definitions

- `Search.accepts`: the predicate of all stages together.
- `Search.traverse`: all items, each one visited as it is yielded.
- `Search.advance`: the next item.
-/

namespace TermSearch

/-- The elements of a value that is used as the source of a search. -/
def Value.sourceElements (v : Value) : Except Fault (List Value) :=
  match v.elements? with
  | some elements => .ok elements
  | none => .error (.notIterable v.typeName)

/-- Takes items one at a time and visits those that are accepted. -/
def visitAll {β : Type} (accepts : Predicate Event Value) (visit : Value → Traced Event β) :
    List Value → Traced Event (List β)
  | [] => pure []
  | item :: rest => do
    Traced.record (.pulled item)
    if ← accepts item then
      let b ← visit item
      let more ← visitAll accepts visit rest
      pure (b :: more)
    else visitAll accepts visit rest

/-- Takes items one at a time up to the first that is accepted, and visits it. -/
def visitNext {β : Type} (accepts : Predicate Event Value) (visit : Value → Traced Event β) :
    List Value → Traced Event (Option β)
  | [] => pure none
  | item :: rest => do
    Traced.record (.pulled item)
    if ← accepts item then
      let b ← visit item
      pure (some b)
    else visitNext accepts visit rest

namespace Search

/-- The stages of a search, from the outermost to the innermost. -/
def stages (s : Search) : List Stage :=
  s.own :: s.below

/-- Whether no stage has a condition, so that the search yields its source as it is. -/
def isPlain (s : Search) : Bool :=
  s.stages.all fun stage => stage.conditions.isEmpty

/-- Whether the item passes all stages, tried from the innermost outwards. -/
def accepts (s : Search) : Predicate Event Value :=
  allOf (s.stages.reverse.map Stage.accepts)

/-- The records by which the stages announce that they are evaluated. -/
def announcements (s : Search) : List LogRecord :=
  (s.stages.filter fun stage => !stage.conditions.isEmpty).map fun stage =>
    stage.logRecord "Evaluating search"

/-- Announces the evaluation and opens the source. -/
def openSource (s : Search) (source : Except Fault (List Value)) :
    Traced Event (List Value) :=
  ⟨s.announcements.map .logged, source⟩

/-- Goes through the items of the source and visits those that the search yields. -/
def traverse {β : Type} (s : Search) (visit : Value → Traced Event β)
    (source : Except Fault (List Value)) : Traced Event (List β) := do
  let items ← s.openSource source
  visitAll s.accepts visit items

/-- The items that the search yields. -/
def items (s : Search) (source : Except Fault (List Value)) : Traced Event (List Value) :=
  s.traverse pure source

/-- Goes on through the items that are left, up to the next one that the search yields, and
visits it. -/
def advance {β : Type} (s : Search) (visit : Value → Traced Event β) (rest : List Value) :
    Traced Event (Option β) :=
  visitNext s.accepts visit rest

end Search

end TermSearch
