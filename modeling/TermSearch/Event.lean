import TermSearch.Logging.Context
import TermSearch.Traced
import TermSearch.Value.Basic

/-!
# Events

What evaluation makes known as it goes, and the views of a trace that keep one sort of event
each. Every view goes through concatenation, so what two computations in a row make known is
what the first one does, and then what the second one does.
-/

namespace TermSearch

/-- What evaluation makes known. -/
inductive Event where
  /-- An extractor was asked for a property of an item. -/
  | read (property : String) (item : Value)
  /-- A value was held against a term. -/
  | compared (value : Option String) (term : String) (outcome : Bool)
  /-- An item was taken from the source. -/
  | pulled (item : Value)
  | logged (record : LogRecord)
  | printed (line : String)

namespace Event

/-- The property and the item of a read. -/
def read? : Event → Option (String × Value)
  | read property item => some (property, item)
  | _ => none

/-- The value, the term and the outcome of a comparison. -/
def comparison? : Event → Option (Option String × String × Bool)
  | compared value term outcome => some (value, term, outcome)
  | _ => none

/-- The item that was taken. -/
def pulled? : Event → Option Value
  | pulled item => some item
  | _ => none

/-- The record that was logged. -/
def record? : Event → Option LogRecord
  | logged record => some record
  | _ => none

/-- The line that was printed. -/
def line? : Event → Option String
  | printed line => some line
  | _ => none

end Event

/-- Events in the order in which they came. -/
abbrev Trace := List Event

namespace Trace

/-- The reads of extractors: which property, of which item. -/
def reads (trace : Trace) : List (String × Value) :=
  trace.filterMap Event.read?

/-- The comparisons of values with terms. -/
def comparisons (trace : Trace) : List (Option String × String × Bool) :=
  trace.filterMap Event.comparison?

/-- The items that were taken from the source. -/
def pulled (trace : Trace) : List Value :=
  trace.filterMap Event.pulled?

/-- The log records. -/
def records (trace : Trace) : List LogRecord :=
  trace.filterMap Event.record?

/-- The printed lines. -/
def lines (trace : Trace) : List String :=
  trace.filterMap Event.line?

/-- The printed text: each line with a line break behind it. -/
def printed (trace : Trace) : String :=
  String.join ((lines trace).map (· ++ "\n"))

@[simp] theorem reads_append (t u : Trace) : reads (t ++ u) = reads t ++ reads u :=
  List.filterMap_append

theorem reads_flatMap {α : Type} (l : List α) (f : α → Trace) :
    reads (l.flatMap f) = l.flatMap fun a => reads (f a) :=
  List.filterMap_flatMap

@[simp] theorem comparisons_append (t u : Trace) :
    comparisons (t ++ u) = comparisons t ++ comparisons u :=
  List.filterMap_append

@[simp] theorem pulled_append (t u : Trace) : pulled (t ++ u) = pulled t ++ pulled u :=
  List.filterMap_append

@[simp] theorem records_append (t u : Trace) : records (t ++ u) = records t ++ records u :=
  List.filterMap_append

@[simp] theorem lines_append (t u : Trace) : lines (t ++ u) = lines t ++ lines u :=
  List.filterMap_append

end Trace

end TermSearch
