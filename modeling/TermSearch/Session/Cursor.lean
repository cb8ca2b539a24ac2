import TermSearch.Ranking

/-!
# Cursors

A way through the items that a search yields, one at a time. The first move announces the
evaluation; each move takes items from the source up to the next one that the search yields.
At the end of the source, and after a fault, nothing more will come.
-/

namespace TermSearch

/-- One item of a search or of a ranking. -/
inductive Found where
  | plain (item : Value)
  | ranked (entry : RankedItem)

/-- How far a cursor has come. -/
inductive Progress where
  /-- Nothing was taken yet. -/
  | unopened
  /-- So many items were taken. -/
  | opened (taken : Nat)
  /-- Nothing more will come. -/
  | finished
  deriving DecidableEq, Repr

/-- A way through the items that a search yields, one at a time, as they are or ranked. -/
structure Cursor where
  origin : Nat
  search : Search
  ranks : Bool
  progress : Progress

namespace Cursor

/-- The next item that a cursor comes to in its source. -/
def pull (cursor : Cursor) (source : Except Fault (List Value)) : Traced Event (Option Found) := do
  let rest ←
    match cursor.progress with
    | .unopened => cursor.search.openSource source
    | _ => Traced.ofExcept source
  if cursor.ranks then
    cursor.search.advance (fun item => Found.ranked <$> cursor.search.rank item) rest
  else cursor.search.advance (fun item => pure (.plain item)) rest

/-- The number of items taken by a cursor. -/
def taken (cursor : Cursor) : Nat :=
  match cursor.progress with
  | .opened taken => taken
  | _ => 0

/-- The cursor after a move. At the end of its source and after a fault it is finished. -/
def after (cursor : Cursor) (move : Traced Event (Option Found)) : Cursor :=
  match move.result with
  | .ok (some _) =>
    { cursor with progress := .opened (cursor.taken + (Trace.pulled move.trace).length) }
  | _ => { cursor with progress := .finished }

/-- Whether a move came to the end of the source. -/
def reachesEnd (move : Traced Event (Option Found)) : Bool :=
  match move.result with
  | .ok none => true
  | _ => false

end Cursor

end TermSearch
