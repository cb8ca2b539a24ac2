import TermSearch.Unicode.WordCharacter

/-!
# Placements

How a term has to sit in a text: anywhere, or as whole words. A term sits as whole words where
no word character stands directly before or directly after it; what it is made of itself does
not matter.
-/

namespace TermSearch.Text

/-- How a term has to sit in a text. -/
inductive Placement where
  | anywhere
  | wholeWords
  deriving DecidableEq, Repr

/-- Whether a word character stands at a place of a text; beyond its ends none does. -/
def isWordAt : Option Char → Bool
  | some c => Unicode.isWordCharacter c
  | none => false

namespace Placement

/-- Whether a term may stand between the two neighbours `before` and `after`. -/
def allows (placement : Placement) (before after : Option Char) : Bool :=
  match placement with
  | anywhere => true
  | wholeWords => !isWordAt before && !isWordAt after

/-- All placements. -/
def all : List Placement :=
  [anywhere, wholeWords]

/-- The placement that is used where none is chosen. -/
def standard : Placement :=
  anywhere

/-- The word that chooses a placement. -/
def label : Placement → String
  | anywhere => "any_occurrence"
  | wholeWords => "whole_words"

/-- The name of a placement among all placements. -/
def memberName : Placement → String
  | anywhere => "ANY_OCCURRENCE"
  | wholeWords => "WHOLE_WORDS"

/-- The placement that a word chooses. -/
def ofLabel? (word : String) : Option Placement :=
  all.find? fun p => p.label == word

/-- The word of a placement chooses it. -/
theorem ofLabel?_label (p : Placement) : ofLabel? p.label = some p := by
  cases p <;> decide +kernel

/-- Only the word of a placement chooses it. -/
theorem label_of_ofLabel? {word : String} {p : Placement} (h : ofLabel? word = some p) :
    p.label = word := by
  simpa using List.find?_some h

end Placement

end TermSearch.Text
