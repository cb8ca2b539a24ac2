import TermSearch.Comparison.Checks
import TermSearch.Proofs.Unicode.CaseStability

/-!
# Normalizing Once More

A text in normal form stays as it is when it is normalized once more, under the same comparison.
Checks see nothing of a value and a term but their normal forms, and so they answer the same
whether they are given texts as they are or in normal form.

## Main definitions

- `Comparison.AnswersAlike`: all checks and counts are the same for two pairs of a value and a term.

## Main statements

- `Comparison.normalForm_normalForm`: a normal form is its own normal form.
- `Comparison.answersAlike_of_normalize`: checks see only normal forms.
- `Comparison.normalize_idempotent`: normalizing once more changes neither texts nor checks.
-/

namespace TermSearch.Comparison

open Unicode

/-! ## Normal forms -/

/-- A normal form is its own normal form. -/
theorem normalForm_normalForm (c : Comparison) (text : List Char) :
    c.normalForm (c.normalForm text) = c.normalForm text := by
  obtain ⟨collation, ignoresCase⟩ := c
  by_cases hordinal : collation = .ordinal
  · subst hordinal
    cases ignoresCase with
    | false => rfl
    | true => exact uppercase_uppercase text
  · -- either way the form is composed, and composing it once more does nothing
    cases ignoresCase with
    | false =>
      rw [(normalForm_of_ne_ordinal hordinal _).1, (normalForm_of_ne_ordinal hordinal _).1]
      exact compose_compose text
    | true =>
      have hcomposed : compose (foldText (compose text)) = foldText (compose text) :=
        compose_compose _
      rw [(normalForm_of_ne_ordinal hordinal _).2, (normalForm_of_ne_ordinal hordinal _).2,
        hcomposed]
      exact foldText_foldText _

theorem toList_normalize (c : Comparison) (s : String) :
    (c.normalize s).toList = c.normalForm s.toList :=
  String.toList_ofList

theorem normalize_normalize (c : Comparison) (s : String) :
    c.normalize (c.normalize s) = c.normalize s := by
  rw [normalize, toList_normalize, normalForm_normalForm]
  rfl

/-! ## Checks -/

/-- All checks answer for a value and a term as they do for others, and count the same. -/
structure AnswersAlike (c : Comparison) (value : Option String) (term : String)
    (otherValue : Option String) (otherTerm : String) : Prop where
  contains : ∀ placement,
    c.contains placement value term = c.contains placement otherValue otherTerm
  startsWith : c.startsWith value term = c.startsWith otherValue otherTerm
  endsWith : c.endsWith value term = c.endsWith otherValue otherTerm
  equals : c.equals value term = c.equals otherValue otherTerm
  count : ∀ placement, c.countOccurrences placement value term =
    c.countOccurrences placement otherValue otherTerm

/-- Checks see only the normal forms of a value and a term. -/
theorem answersAlike_of_normalize {c : Comparison} {value otherValue : Option String}
    {term otherTerm : String} (hvalue : value.map c.normalize = otherValue.map c.normalize)
    (hterm : c.normalize term = c.normalize otherTerm) :
    AnswersAlike c value term otherValue otherTerm := by
  have hform : c.normalForm term.toList = c.normalForm otherTerm.toList := by
    rw [← toList_normalize, ← toList_normalize, hterm]
  cases value with
  | none =>
    obtain rfl : otherValue = none := by simpa using hvalue.symm
    exact ⟨fun _ => rfl, rfl, rfl, rfl, fun _ => rfl⟩
  | some text =>
    obtain ⟨otherText, rfl, htext⟩ := Option.map_eq_some_iff.mp hvalue.symm
    have htext : c.normalForm text.toList = c.normalForm otherText.toList := by
      rw [← toList_normalize, ← toList_normalize, htext]
    constructor <;>
      simp only [Comparison.contains, Comparison.startsWith, Comparison.endsWith, Comparison.equals,
        countOccurrences, hform, htext, implies_true]

/-- Normalizing once more changes nothing, under every comparison: a text in normal form stays
as it is, and all checks and counts stay the same where the value, the term or both are put into
normal form. -/
theorem normalize_idempotent (c : Comparison) :
    (∀ s, c.normalize (c.normalize s) = c.normalize s) ∧
    ∀ value term,
      c.AnswersAlike (value.map c.normalize) term value term ∧
      c.AnswersAlike value (c.normalize term) value term ∧
      c.AnswersAlike (value.map c.normalize) (c.normalize term) value term := by
  have hvalue : ∀ value : Option String,
      (value.map c.normalize).map c.normalize = value.map c.normalize := by
    intro value
    rw [Option.map_map]
    exact Option.map_congr fun s _ => c.normalize_normalize s
  exact ⟨c.normalize_normalize, fun value term =>
    ⟨answersAlike_of_normalize (hvalue value) rfl,
      answersAlike_of_normalize rfl (c.normalize_normalize term),
      answersAlike_of_normalize (hvalue value) (c.normalize_normalize term)⟩⟩

end TermSearch.Comparison
