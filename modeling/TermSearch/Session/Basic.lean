import TermSearch.Session.Cursor
import TermSearch.Session.Source

/-!
# Sessions

A session holds sources of items, and names bound to sources, searches, rankings of searches
and cursors. A search goes with the source that it was made over, whatever becomes of the name
of that source.
-/

namespace TermSearch

/-- What a name can stand for. Searches are bound with the place of their source. -/
inductive Binding where
  | source (place : Nat)
  | search (origin : Nat) (search : Search)
  | ranking (origin : Nat) (search : Search)
  | cursor (cursor : Cursor)

/-- The sources made so far, each at its place, and the names. -/
structure Session where
  sources : List Source
  names : Fields Binding

namespace Session

/-- The session without sources and names. -/
def empty : Session :=
  ⟨[], []⟩

/-- Binds a name. -/
def bind (σ : Session) (name : String) (binding : Binding) : Session :=
  { σ with names := σ.names.put name binding }

/-- The place of the source of a name. -/
def sourceOf (σ : Session) (name : String) : Except Fault Nat :=
  match σ.names.get? name with
  | some (.source place) => .ok place
  | _ => .error (.unboundName name)

/-- The search of a name, with the place of its source. -/
def searchOf (σ : Session) (name : String) : Except Fault (Nat × Search) :=
  match σ.names.get? name with
  | some (.search origin s) => .ok (origin, s)
  | _ => .error (.unboundName name)

/-- The search that the ranking of a name is about, with the place of its source. -/
def rankingOf (σ : Session) (name : String) : Except Fault (Nat × Search) :=
  match σ.names.get? name with
  | some (.ranking origin s) => .ok (origin, s)
  | _ => .error (.unboundName name)

/-- The cursor of a name. -/
def cursorOf (σ : Session) (name : String) : Except Fault Cursor :=
  match σ.names.get? name with
  | some (.cursor cursor) => .ok cursor
  | _ => .error (.unboundName name)

/-- What a new search over the source or the search of a name begins as, with the place of the
source below. -/
def baseOf (σ : Session) (name : String) : Except Fault (Nat × (Stage → Search)) :=
  match σ.names.get? name with
  | some (.source place) => .ok (place, Search.start)
  | some (.search origin inner) => .ok (origin, inner.narrow)
  | _ => .error (.unboundName name)

/-- The items of the source at a place, behind the first `position`. -/
def remaining (σ : Session) (place position : Nat) : Except Fault (List Value) :=
  match σ.sources[place]? with
  | some source => source.remaining position
  | none => .ok []

/-- The list behind the source at a place. -/
def itemsAt (σ : Session) (place : Nat) : List Value :=
  match σ.sources[place]? with
  | some source => source.items
  | none => []

/-- Changes the source at a place. -/
def modifySource (σ : Session) (place : Nat) (f : Source → Source) : Session :=
  { σ with sources := σ.sources.modify place f }

end Session

end TermSearch
