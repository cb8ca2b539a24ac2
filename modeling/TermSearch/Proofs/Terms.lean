import Mathlib.Data.Set.List
import TermSearch.Terms

/-!
# Usable Terms

Which terms a value gives, when it gives any, and what is wrong with a value that gives none.

## Main definitions

- `Terms.usable`: the terms among values.
- `Terms.Unusable`: what is wrong with a value that gives no terms.

## Main statements

- `Terms.validate_eq_ok_iff`, `Terms.validate_eq_error_iff`: validation finds the terms that a value
  gives, or what is wrong with it.
-/

namespace TermSearch

/-- The text that a value is. -/
def Value.text? : Value → Option String
  | .text s => some s
  | _ => none

namespace Terms

/-- The terms among the given values: the texts, without the blank ones unless they are kept. -/
def usable (keepsBlank : Bool) (elements : List Value) : List String :=
  (elements.filterMap Value.text?).filter fun term => keepsBlank || !Text.isBlank term

theorem mem_usable_iff {keepsBlank : Bool} {elements : List Value} {term : String} :
    term ∈ usable keepsBlank elements ↔
      .text term ∈ elements ∧ (keepsBlank = true ∨ Text.isBlank term = false) := by
  have htext : term ∈ elements.filterMap Value.text? ↔ .text term ∈ elements := by
    rw [List.mem_filterMap]
    constructor
    · rintro ⟨v, hv, hterm⟩
      cases v <;> simp_all [Value.text?]
    · intro h
      exact ⟨.text term, h, rfl⟩
  simp [usable, List.mem_filter, htext]

/-- Texts are read as they are. -/
theorem texts_map_text (terms : List String) : texts (terms.map .text) = .ok terms := by
  induction terms with
  | nil => rfl
  | cons term rest ih => simp [texts, ih]

/-- Only texts are read. -/
theorem eq_map_text_of_texts {elements : List Value} {terms : List String}
    (h : texts elements = .ok terms) : elements = terms.map .text := by
  -- on the elements, since reading stops at the first one that is no text
  induction elements generalizing terms with
  | nil =>
    obtain rfl : [] = terms := by simpa [texts] using h
    rfl
  | cons v rest ih =>
    cases v with
    | text s =>
      rw [texts] at h
      cases hrest : texts rest with
      | error fault => simp [hrest] at h
      | ok more =>
        obtain rfl : s :: more = terms := by simpa [hrest] using h
        rw [ih hrest, List.map_cons]
    | _ => simp [texts] at h

/-- Values are the texts of a list where each of them is a text. -/
theorem exists_eq_map_text_iff {elements : List Value} :
    (∃ terms : List String, elements = terms.map .text) ↔
      ∀ element ∈ elements, ∃ term, element = .text term := by
  simpa [eq_comm] using Set.ext_iff.mp (Set.range_list_map Value.text) elements

/-- The usable terms of values that are all texts. -/
theorem usable_map_text (keepsBlank : Bool) (terms : List String) :
    usable keepsBlank (terms.map .text) =
      if keepsBlank then terms else Text.nonBlank terms := by
  have htexts : (terms.map Value.text).filterMap Value.text? = terms := by
    rw [List.filterMap_map]
    exact List.filterMap_some
  rw [usable, htexts]
  cases keepsBlank <;> simp [Text.nonBlank]

/-- Nothing is left without the blank texts where all are blank. -/
theorem nonBlank_eq_nil_iff {terms : List String} :
    Text.nonBlank terms = [] ↔ ∀ term ∈ terms, Text.isBlank term = true := by
  simp [Text.nonBlank, List.filter_eq_nil_iff]

/-- Something is left without the blank texts where some text is not blank. -/
theorem nonBlank_ne_nil_iff {terms : List String} :
    Text.nonBlank terms ≠ [] ↔ ∃ term ∈ terms, Text.isBlank term = false := by
  simp [nonBlank_eq_nil_iff]

/-- A single text that is not blank is usable. -/
theorem usable_singleton_text {term : String} (h : Text.isBlank term = false)
    (keepsBlank : Bool) : usable keepsBlank [.text term] = [term] := by
  simp [usable, Value.text?, h]

/-- Terms are selected where all values are texts and a usable one is among them. -/
theorem select_eq_ok_iff {keepsBlank : Bool} {elements : List Value} {kept : List String} :
    select keepsBlank elements = .ok kept ↔
      (∃ terms : List String, elements = terms.map .text) ∧
        kept = usable keepsBlank elements ∧ kept ≠ [] := by
  constructor
  · intro h
    -- of the branches of `select`, only the two that keep terms succeed
    rw [select] at h
    split at h
    · simp at h
    · next hne =>
      split at h
      · simp at h
      · next terms hterms =>
        obtain rfl := eq_map_text_of_texts hterms
        refine ⟨⟨terms, rfl⟩, ?_⟩
        rw [usable_map_text]
        cases keepsBlank with
        | true => simp_all
        | false =>
          simp only [Bool.false_eq_true, if_false] at h ⊢
          split at h <;> simp_all
  · rintro ⟨⟨terms, rfl⟩, rfl, hne⟩
    rw [usable_map_text] at hne ⊢
    have hterms : (terms.map Value.text).isEmpty = false := by
      cases terms with
      | nil => cases keepsBlank <;> simp [Text.nonBlank] at hne
      | cons term rest => rfl
    rw [select, hterms, texts_map_text]
    cases keepsBlank with
    | true => rfl
    | false => simpa using hne

/-! ## Validation -/

/-- Elements are read up to the first that is no text. -/
theorem texts_eq_error_iff {elements : List Value} {fault : Fault} :
    texts elements = .error fault ↔
      ∃ (before : List String) (bad : Value) (after : List Value),
        elements = before.map .text ++ bad :: after ∧ bad.text? = none ∧
          fault = .termNotText bad.typeName := by
  constructor
  · intro h
    induction elements with
    | nil => simp [texts] at h
    | cons v rest ih =>
      cases v with
      | text s =>
        rw [texts] at h
        cases hrest : texts rest with
        | ok more => simp [hrest] at h
        | error cause =>
          obtain rfl : cause = fault := by simpa [hrest] using h
          obtain ⟨before, bad, after, rfl, hbad, hfault⟩ := ih hrest
          exact ⟨s :: before, bad, after, rfl, hbad, hfault⟩
      | _ => exact ⟨[], _, rest, rfl, rfl, (Except.error.inj h).symm⟩
  · rintro ⟨before, bad, after, rfl, hbad, rfl⟩
    induction before with
    | nil =>
      cases bad with
      | text s => simp [Value.text?] at hbad
      | _ => rfl
    | cons s rest ih => simp [texts, ih]

/-- An element that is no text is refused before blank texts are looked for. -/
theorem select_of_texts_eq_error {elements : List Value} {fault : Fault}
    (h : texts elements = .error fault) (keepsBlank : Bool) :
    select keepsBlank elements = .error fault := by
  cases elements with
  | nil => simp [texts] at h
  | cons v rest => simp [select, h]

/-- Texts are refused only where all of them are blank and these are not kept. -/
theorem select_map_text_eq_error_iff {keepsBlank : Bool} {terms : List String} {fault : Fault}
    (hne : terms ≠ []) :
    select keepsBlank (terms.map .text) = .error fault ↔
      keepsBlank = false ∧ (∀ term ∈ terms, Text.isBlank term = true) ∧ fault = .blankTerms := by
  have hempty : (terms.map Value.text).isEmpty = false := by simpa using hne
  rw [select, hempty, texts_map_text, ← nonBlank_eq_nil_iff]
  cases keepsBlank with
  | true => simp
  | false =>
    by_cases hblank : Text.nonBlank terms = []
    · simp [hblank, eq_comm]
    · simp [hblank]

/-- What is wrong with a value that gives no terms. -/
inductive Unusable (keepsBlank : Bool) : Value → Fault → Prop where
  /-- There is no value. -/
  | missing : Unusable keepsBlank .null .termsMissing
  /-- The value cannot be gone through. -/
  | notIterable {v : Value} (hnull : v ≠ .null) (h : v.elements? = none) :
      Unusable keepsBlank v (.termsNotIterable v.typeName)
  /-- There are no elements. -/
  | empty {v : Value} (h : v.elements? = some []) : Unusable keepsBlank v .noTerms
  /-- An element behind texts is no text itself, whatever stands behind it. -/
  | notText {v bad : Value} (before : List String) (after : List Value)
      (h : v.elements? = some (before.map .text ++ bad :: after)) (hbad : bad.text? = none) :
      Unusable keepsBlank v (.termNotText bad.typeName)
  /-- There are blank texts only, and these are not kept. -/
  | blank {v : Value} {terms : List String} (hkeeps : keepsBlank = false)
      (h : v.elements? = some (terms.map .text)) (hne : terms ≠ [])
      (hblank : ∀ term ∈ terms, Text.isBlank term = true) : Unusable keepsBlank v .blankTerms

/-- Terms are selected among the elements of a value that can be gone through. -/
theorem validate_of_elements? {v : Value} {elements : List Value} (h : v.elements? = some elements)
    (keepsBlank : Bool) : validate keepsBlank v = select keepsBlank elements := by
  cases v with
  | null => simp [Value.elements?] at h
  | _ => simp only [validate, h]

/-- A value that cannot be gone through is refused for that. -/
theorem exists_validate_eq_error {v : Value} (h : v.elements? = none) (keepsBlank : Bool) :
    ∃ fault, validate keepsBlank v = .error fault ∧ Unusable keepsBlank v fault := by
  cases v with
  | null => exact ⟨_, rfl, .missing⟩
  | _ => exact ⟨_, by simp only [validate, h], .notIterable (by simp) h⟩

/-- Validation finds terms in a value whose elements are all texts, and a usable one among them. -/
theorem validate_eq_ok_iff {keepsBlank : Bool} {v : Value} {kept : List String} :
    validate keepsBlank v = .ok kept ↔
      ∃ terms : List String, v.elements? = some (terms.map .text) ∧
        kept = (if keepsBlank then terms else Text.nonBlank terms) ∧ kept ≠ [] := by
  cases h : v.elements? with
  | none =>
    obtain ⟨fault, hfault, -⟩ := exists_validate_eq_error h keepsBlank
    simp [hfault]
  | some elements =>
    rw [validate_of_elements? h, select_eq_ok_iff]
    constructor
    · rintro ⟨⟨terms, rfl⟩, hkept, hne⟩
      exact ⟨terms, rfl, hkept.trans (usable_map_text keepsBlank terms), hne⟩
    · rintro ⟨terms, helements, hkept, hne⟩
      obtain rfl := Option.some.inj helements
      exact ⟨⟨terms, rfl⟩, hkept.trans (usable_map_text keepsBlank terms).symm, hne⟩

/-- Validation finds just what is wrong with a value. -/
theorem validate_eq_error_iff {keepsBlank : Bool} {v : Value} {fault : Fault} :
    validate keepsBlank v = .error fault ↔ Unusable keepsBlank v fault := by
  constructor
  · intro hvalidate
    cases h : v.elements? with
    | none =>
      obtain ⟨cause, hcause, hunusable⟩ := exists_validate_eq_error h keepsBlank
      obtain rfl := Except.error.inj (hcause.symm.trans hvalidate)
      exact hunusable
    | some elements =>
      rw [validate_of_elements? h] at hvalidate
      cases htexts : texts elements with
      | error cause =>
        rw [select_of_texts_eq_error htexts] at hvalidate
        obtain rfl := Except.error.inj hvalidate
        obtain ⟨before, bad, after, rfl, hbad, rfl⟩ := texts_eq_error_iff.mp htexts
        exact .notText before after h hbad
      | ok terms =>
        obtain rfl := eq_map_text_of_texts htexts
        by_cases hne : terms = []
        · subst hne
          obtain rfl := Except.error.inj hvalidate
          exact .empty h
        · obtain ⟨hkeeps, hblank, rfl⟩ := (select_map_text_eq_error_iff hne).mp hvalidate
          exact .blank hkeeps h hne hblank
  · intro hunusable
    cases hunusable with
    | missing => rfl
    | notIterable hnull h =>
      cases v with
      | null => exact absurd rfl hnull
      | _ => simp only [validate, h]
    | empty h => exact validate_of_elements? h keepsBlank
    | notText before after h hbad =>
      rw [validate_of_elements? h]
      exact select_of_texts_eq_error (texts_eq_error_iff.mpr ⟨before, _, after, rfl, hbad, rfl⟩) _
    | blank hkeeps h hne hblank =>
      rw [validate_of_elements? h]
      exact (select_map_text_eq_error_iff hne).mpr ⟨hkeeps, hblank, rfl⟩

end Terms

end TermSearch
