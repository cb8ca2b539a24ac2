import TermSearch.Comparison.Basic
import TermSearch.Text.Occurrence

/-!
# Checks

The checks of one text against one term under a comparison. A text that is absent passes no
check and holds no occurrence.
-/

namespace TermSearch.Comparison

open Text (Placement)

/-- Whether the term occurs in the text. -/
def contains (c : Comparison) (placement : Placement) (value : Option String)
    (term : String) : Bool :=
  match value with
  | none => false
  | some s => Text.occurs placement (c.normalForm term.toList) (c.normalForm s.toList)

/-- Whether the text starts with the term. -/
def startsWith (c : Comparison) (value : Option String) (term : String) : Bool :=
  match value with
  | none => false
  | some s => (c.normalForm term.toList).isPrefixOf (c.normalForm s.toList)

/-- Whether the text ends with the term. -/
def endsWith (c : Comparison) (value : Option String) (term : String) : Bool :=
  match value with
  | none => false
  | some s => (c.normalForm term.toList).isSuffixOf (c.normalForm s.toList)

/-- Whether the text is the term. -/
def equals (c : Comparison) (value : Option String) (term : String) : Bool :=
  match value with
  | none => false
  | some s => c.normalForm s.toList == c.normalForm term.toList

/-- How often the term occurs in the text, overlaps not counted. -/
def countOccurrences (c : Comparison) (placement : Placement) (value : Option String)
    (term : String) : Nat :=
  match value with
  | none => 0
  | some s => Text.count placement (c.normalForm term.toList) (c.normalForm s.toList)

end TermSearch.Comparison
