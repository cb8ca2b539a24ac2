import TermSearch.Unicode.CaseFolding
import TermSearch.Unicode.Normalization
import TermSearch.Unicode.Uppercase

/-!
# Comparisons

The rules by which two texts are compared: by their characters as they are, or by canonical
equivalence as readers of a language see it, each with or without regard to case.

A comparison brings both texts into a normal form and compares the normal forms. Ordinal
comparisons leave the characters alone, or put them into upper case; the others compose the
text canonically, and fold its case and compose it once more where case is ignored.
-/

namespace TermSearch

/-- What makes two texts the same, case apart. -/
inductive Collation where
  | ordinal
  | currentCulture
  | invariantCulture
  deriving DecidableEq, Repr

/-- A rule for comparing texts. -/
structure Comparison where
  collation : Collation
  ignoresCase : Bool
  deriving DecidableEq, Repr

/-- The name of a collation in lower-case words. -/
def Collation.label : Collation → String
  | ordinal => "ordinal"
  | currentCulture => "current_culture"
  | invariantCulture => "invariant_culture"

/-- The name of a collation in upper-case words. -/
def Collation.memberName : Collation → String
  | ordinal => "ORDINAL"
  | currentCulture => "CURRENT_CULTURE"
  | invariantCulture => "INVARIANT_CULTURE"

namespace Comparison

/-- All comparisons. -/
def all : List Comparison := [
  ⟨.ordinal, false⟩, ⟨.ordinal, true⟩, ⟨.currentCulture, false⟩, ⟨.currentCulture, true⟩,
  ⟨.invariantCulture, false⟩, ⟨.invariantCulture, true⟩]

/-- The comparison that is used where none is chosen. -/
def standard : Comparison :=
  ⟨.currentCulture, false⟩

/-- Whether the characters are compared as they are, case apart. -/
def isOrdinal (c : Comparison) : Bool :=
  c.collation == .ordinal

/-- The word that chooses a comparison. -/
def label (c : Comparison) : String :=
  c.collation.label ++ if c.ignoresCase then "_ignore_case" else ""

/-- The name of a comparison among all comparisons. -/
def memberName (c : Comparison) : String :=
  c.collation.memberName ++ if c.ignoresCase then "_IGNORE_CASE" else ""

/-- The comparison that a word chooses. -/
def ofLabel? (word : String) : Option Comparison :=
  all.find? fun c => c.label == word

/-- The word of a comparison chooses it. -/
theorem ofLabel?_label (c : Comparison) : ofLabel? c.label = some c := by
  obtain ⟨collation, ignoresCase⟩ := c
  cases collation <;> cases ignoresCase <;> decide +kernel

/-- Only the word of a comparison chooses it. -/
theorem label_of_ofLabel? {word : String} {c : Comparison} (h : ofLabel? word = some c) :
    c.label = word := by
  simpa using List.find?_some h

/-- The form in which a text is compared. -/
def normalForm (c : Comparison) (text : List Char) : List Char :=
  match c.collation with
  | .ordinal => if c.ignoresCase then text.flatMap Unicode.uppercase else text
  | .currentCulture | .invariantCulture =>
    let composed := Unicode.compose text
    if c.ignoresCase then Unicode.compose (composed.flatMap Unicode.foldCase) else composed

/-- The text in the form in which it is compared. -/
def normalize (c : Comparison) (s : String) : String :=
  String.ofList (c.normalForm s.toList)

end Comparison

end TermSearch
