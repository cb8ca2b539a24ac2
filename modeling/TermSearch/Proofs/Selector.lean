import TermSearch.Selector

/-!
# Choices of Properties

Whether choices can be searched over is found out before they are resolved, by rules of its own. The
two agree on every choice, so choices that pass their checks stand for an accessor each.

## Main statements

- `Selector.check_eq`: a choice passes its check where it can be resolved, or fails alike.
- `checkSelectors_eq_ok_iff`: choices can be searched over if there are any and all of them pass.
-/

namespace TermSearch

namespace Selector

/-- The accessor that a choice stands for, if it stands for one. -/
def accessor? (selector : Selector) : Option Accessor :=
  selector.resolve.toOption

/-- A choice is refused with the fault that resolving it comes to, and passes otherwise. -/
theorem check_eq (selector : Selector) : selector.check = selector.resolve.map fun _ => () := by
  cases selector with
  | named name =>
    rw [check, resolve, Accessor.ofSelector]
    · cases Text.isBlank name <;> rfl
    · nofun
  | _ => rfl

/-- A choice that passes its check stands for an accessor. -/
theorem exists_resolve_of_check {selector : Selector} (h : selector.check = .ok ()) :
    ∃ accessor, selector.resolve = .ok accessor := by
  rw [check_eq] at h
  cases hresolve : selector.resolve with
  | ok accessor => exact ⟨accessor, rfl⟩
  | error fault => simp [hresolve, Except.map] at h

/-- Choices that pass their checks stand for an accessor each. -/
theorem mapM_resolve_of_check {selectors : List Selector}
    (h : ∀ selector ∈ selectors, selector.check = .ok ()) :
    selectors.mapM resolve = .ok (selectors.filterMap accessor?) := by
  induction selectors with
  | nil => rfl
  | cons selector rest ih =>
    obtain ⟨accessor, haccessor⟩ := exists_resolve_of_check (h selector List.mem_cons_self)
    have hsome : selector.accessor? = some accessor := by
      rw [accessor?, haccessor]
      rfl
    rw [List.mapM_cons, haccessor, ih fun other hmem => h other (List.mem_cons_of_mem _ hmem),
      List.filterMap_cons_some hsome]
    rfl

end Selector

/-- Choices that are looked at one after the other pass if each of them does. -/
theorem checkEach_eq_ok_iff {selectors : List Selector} :
    checkEach selectors = .ok () ↔ ∀ selector ∈ selectors, selector.check = .ok () := by
  induction selectors with
  | nil => simp [checkEach]
  | cons selector rest ih =>
    rw [checkEach, List.forall_mem_cons]
    cases selector.check with
    | error fault => simp
    | ok _ => simpa using ih

/-- Choices can be searched over if there are any and each of them passes its check. -/
theorem checkSelectors_eq_ok_iff {selectors : List Selector} :
    checkSelectors selectors = .ok () ↔
      selectors ≠ [] ∧ ∀ selector ∈ selectors, selector.check = .ok () := by
  rw [checkSelectors]
  cases selectors with
  | nil => simp
  | cons selector rest => simpa using @checkEach_eq_ok_iff (selector :: rest)

end TermSearch
