import TermSearch.Comparison.Checks
import TermSearch.Proofs.Comparison.NormalForm
import TermSearch.Proofs.Text.Packing

/-!
# Stronger and Weaker Checks

How the checks of a value against a term imply each other. A value that is the term starts and
ends with it, and contains it as whole words, once and no more. A value that starts or ends with
a term, or contains it as whole words, contains it. What is said of containment is said of the
count, so far as the term has some character: it is positive where the term is contained.

## Main definitions

- `Comparison.Graded`: how the checks of a value against a term imply each other.

## Main statements

- `Comparison.graded`: they do for every value and every term.
- `Comparison.contains_of_equals`, `Comparison.startsWith_of_equals`,
  `Comparison.endsWith_of_equals`: what follows from equality.
- `Comparison.contains_of_startsWith`, `Comparison.contains_of_endsWith`,
  `Comparison.contains_anywhere`: what containment follows from.
- `Comparison.contains_iff_count_pos`: containment and the count.
- `Comparison.countOccurrences_le_anywhere`, `Comparison.countOccurrences_of_equals`: the counts
  under different placements.
-/

namespace TermSearch

namespace Text

variable {placement : Placement} {term text : List Char}

/-! ## Occurrences -/

/-- A term stands in itself under every placement. -/
theorem occurs_self (placement : Placement) (term : List Char) : Occurs placement term term := by
  refine ⟨[], [], by simp, ?_⟩
  cases placement <;> rfl

/-- A term that stands under some placement stands anywhere. -/
theorem Occurs.anywhere (h : Occurs placement term text) : Occurs .anywhere term text := by
  obtain ⟨before, after, htext, -⟩ := h
  exact ⟨before, after, htext, rfl⟩

theorem occurs_of_prefix (h : term <+: text) : Occurs .anywhere term text := by
  obtain ⟨after, rfl⟩ := h
  exact ⟨[], after, rfl, rfl⟩

theorem occurs_of_suffix (h : term <:+ text) : Occurs .anywhere term text := by
  obtain ⟨before, rfl⟩ := h
  exact ⟨before, [], (List.append_nil _).symm, rfl⟩

/-! ## Counts -/

/-- Under no placement is a term counted more often than anywhere. -/
theorem count_le_anywhere (placement : Placement) (term text : List Char) :
    count placement term text ≤ count .anywhere term text := by
  by_cases hterm : term = []
  · simp [hterm, count]
  · rw [← card_matchStarts hterm]
    exact (isPacking_matchStarts hterm text).anywhere.card_le_count hterm

/-- A term that is not empty is counted once in itself: there is no room for more. -/
theorem count_self (h : term ≠ []) (placement : Placement) : count placement term term = 1 := by
  have hlength : 0 < term.length := List.length_pos_iff.mpr h
  have hpos : 0 < count placement term term :=
    (count_pos_iff h).mpr (occurs_eq_true_iff.mpr (occurs_self placement term))
  have hroom : count placement term term * term.length ≤ 1 * term.length := by
    rw [← card_matchStarts h, Nat.one_mul]
    exact (isPacking_matchStarts h term).card_mul_length_le
  exact Nat.le_antisymm (Nat.le_of_mul_le_mul_right hroom hlength) hpos

end Text

namespace Comparison

open Text (Placement)

variable {c : Comparison} {placement : Placement} {value : Option String} {term : String}

/-! ## Implications -/

/-- What a value is that is equal to a term: a text with the same normal form. -/
theorem equals_iff : equals c value term = true ↔
    ∃ text ∈ value, c.normalForm text.toList = c.normalForm term.toList := by
  cases value <;> simp [equals]

theorem startsWith_of_equals (h : equals c value term = true) : startsWith c value term = true := by
  obtain ⟨text, rfl, htext⟩ := equals_iff.mp h
  rw [startsWith, htext]
  exact List.isPrefixOf_iff_prefix.mpr List.prefix_rfl

theorem endsWith_of_equals (h : equals c value term = true) : endsWith c value term = true := by
  obtain ⟨text, rfl, htext⟩ := equals_iff.mp h
  rw [endsWith, htext]
  exact List.isSuffixOf_iff_suffix.mpr List.suffix_rfl

theorem contains_of_equals (h : equals c value term = true) (placement : Placement) :
    contains c placement value term = true := by
  obtain ⟨text, rfl, htext⟩ := equals_iff.mp h
  rw [contains, htext]
  exact Text.occurs_eq_true_iff.mpr (Text.occurs_self placement _)

theorem contains_of_startsWith (h : startsWith c value term = true) :
    contains c .anywhere value term = true := by
  cases value with
  | none => exact nomatch h
  | some text =>
    exact Text.occurs_eq_true_iff.mpr (Text.occurs_of_prefix (List.isPrefixOf_iff_prefix.mp h))

theorem contains_of_endsWith (h : endsWith c value term = true) :
    contains c .anywhere value term = true := by
  cases value with
  | none => exact nomatch h
  | some text =>
    exact Text.occurs_eq_true_iff.mpr (Text.occurs_of_suffix (List.isSuffixOf_iff_suffix.mp h))

theorem contains_anywhere (h : contains c placement value term = true) :
    contains c .anywhere value term = true := by
  cases value with
  | none => exact nomatch h
  | some text => exact Text.occurs_eq_true_iff.mpr (Text.occurs_eq_true_iff.mp h).anywhere

/-! ## Counts -/

/-- A term that is not empty has a normal form that is not empty. -/
theorem normalForm_ne_nil (h : term ≠ "") : c.normalForm term.toList ≠ [] := by
  rwa [Ne, normalForm_eq_nil_iff, String.toList_eq_nil_iff]

/-- A term that is not empty is contained where it is counted. -/
theorem contains_iff_count_pos (h : term ≠ "") :
    contains c placement value term = true ↔ 0 < countOccurrences c placement value term := by
  cases value with
  | none => simp [contains, countOccurrences]
  | some text => exact (Text.count_pos_iff (normalForm_ne_nil h)).symm

/-- Under no placement are there more occurrences than anywhere. -/
theorem countOccurrences_le_anywhere (c : Comparison) (placement : Placement)
    (value : Option String) (term : String) :
    countOccurrences c placement value term ≤ countOccurrences c .anywhere value term := by
  cases value with
  | none => exact Nat.le_refl 0
  | some text => exact Text.count_le_anywhere placement _ _

/-- A value that is equal to a term holds it once. -/
theorem countOccurrences_of_equals (hterm : term ≠ "") (h : equals c value term = true)
    (placement : Placement) : countOccurrences c placement value term = 1 := by
  obtain ⟨text, rfl, htext⟩ := equals_iff.mp h
  rw [countOccurrences, htext]
  exact Text.count_self (normalForm_ne_nil hterm) placement

/-! ## All checks -/

/-- The checks of a value against a term imply each other, and the counts go along with them.
The empty term is contained without being counted as often, so that it is left out where counts
are positive. -/
structure Graded (c : Comparison) (value : Option String) (term : String) : Prop where
  of_equals : equals c value term = true → startsWith c value term = true ∧
    endsWith c value term = true ∧ contains c .wholeWords value term = true
  anywhere : startsWith c value term = true ∨ endsWith c value term = true ∨
    contains c .wholeWords value term = true → contains c .anywhere value term = true
  count_pos : term ≠ "" → ∀ placement, contains c placement value term = true ↔
    0 < countOccurrences c placement value term
  count_le : countOccurrences c .wholeWords value term ≤ countOccurrences c .anywhere value term
  count_of_equals : term ≠ "" → equals c value term = true →
    ∀ placement, countOccurrences c placement value term = 1

theorem graded (c : Comparison) (value : Option String) (term : String) : Graded c value term where
  of_equals h := ⟨startsWith_of_equals h, endsWith_of_equals h, contains_of_equals h .wholeWords⟩
  anywhere h := by
    rcases h with hstarts | hends | hcontains
    · exact contains_of_startsWith hstarts
    · exact contains_of_endsWith hends
    · exact contains_anywhere hcontains
  count_pos hterm _ := contains_iff_count_pos hterm
  count_le := countOccurrences_le_anywhere c .wholeWords value term
  count_of_equals hterm h placement := countOccurrences_of_equals hterm h placement

end Comparison

end TermSearch
