import TermSearch.Fault
import TermSearch.Text.Blank
import TermSearch.Value.Basic

/-!
# Search Terms

Which values may be searched for. Terms are texts; blank ones say nothing and are dropped,
unless they are asked for. At least one term has to remain.
-/

namespace TermSearch.Terms

/-- The elements as texts, or the kind of the first one that is no text. -/
def texts : List Value → Except Fault (List String)
  | [] => .ok []
  | .text s :: rest =>
    match texts rest with
    | .ok more => .ok (s :: more)
    | .error fault => .error fault
  | other :: _ => .error (.termNotText other.typeName)

/-- The terms to search for among the given elements. -/
def select (keepsBlank : Bool) (elements : List Value) : Except Fault (List String) :=
  if elements.isEmpty then .error .noTerms
  else
    match texts elements with
    | .error fault => .error fault
    | .ok terms =>
      if keepsBlank then .ok terms
      else if (Text.nonBlank terms).isEmpty then .error .blankTerms
      else .ok (Text.nonBlank terms)

/-- The terms that a value gives: the elements that it yields, once they are all found to be
texts. -/
def validate (keepsBlank : Bool) (v : Value) : Except Fault (List String) :=
  match v with
  | .null => .error .termsMissing
  | v =>
    match v.elements? with
    | none => .error (.termsNotIterable v.typeName)
    | some elements => select keepsBlank elements

end TermSearch.Terms
