import TermSearch.Comparison.Basic

/-!
# Normal Forms

A normal form loses no text altogether: every character is spelled by some characters in upper
case, with its case folded and decomposed, and composition keeps a first character.

## Main statements

- `Comparison.normalForm_eq_nil_iff`: only the empty text has an empty normal form.
-/

namespace TermSearch

namespace Unicode

/-- A case change that spells a character out spells it by some characters. -/
def CaseChange.IsSpelled : CaseChange → Prop
  | .shift _ _ => True
  | .spell codes => codes ≠ []

instance : DecidablePred CaseChange.IsSpelled
  | .shift _ _ => inferInstanceAs (Decidable True)
  | .spell codes => inferInstanceAs (Decidable (codes ≠ []))

theorem CaseChange.apply_ne_nil {change : CaseChange} (h : change.IsSpelled) (offset : Nat)
    (c : Char) : change.apply offset c ≠ [] := by
  cases change with
  | shift stride distance =>
    rw [CaseChange.apply]
    split <;> simp
  | spell codes => simpa [CaseChange.apply, CaseChange.IsSpelled] using h

/-- A case mapping loses no character if none of its entries does. -/
theorem changeCase_ne_nil {ranges : List (Nat × Nat × CaseChange)}
    (h : ∀ range ∈ ranges, range.2.2.IsSpelled) (c : Char) :
    changeCase (.ofList ranges) c ≠ [] := by
  rw [changeCase]
  split
  · -- a change that the map finds is one of those that it was made of
    next offset change hfind =>
    obtain ⟨first, last, hmem, -⟩ := RangeMap.exists_mem_of_find?_ofList hfind
    exact CaseChange.apply_ne_nil (h _ hmem) offset c
  · simp

theorem uppercase_ne_nil (c : Char) : uppercase c ≠ [] := by
  -- the whole table is gone through once
  have h : ∀ range ∈ uppercaseChanges, range.2.2.IsSpelled := by decide +kernel
  unfold uppercase uppercaseMap
  exact changeCase_ne_nil h c

theorem foldCase_ne_nil (c : Char) : foldCase c ≠ [] := by
  have h : ∀ range ∈ foldingChanges, range.2.2.IsSpelled := by decide +kernel
  unfold foldCase foldingMap
  exact changeCase_ne_nil h c

theorem expand_ne_nil (depth n : Nat) (tail : List Nat) : expand depth n tail ≠ [] := by
  -- the tail grows on the way down, so the hypothesis is needed for every tail
  induction depth generalizing n tail with
  | zero => simp [expand]
  | succ depth ih =>
    rw [expand]
    split
    · exact ih _ _
    · split
      · exact ih _ _
      · simp

theorem decompose_ne_nil (c : Char) : decompose c ≠ [] := by
  rw [decompose]
  split
  · next parts hparts =>
    unfold Hangul.decompose? at hparts
    split at hparts
    · dsimp only at hparts
      split at hparts <;> obtain rfl := Option.some.inj hparts <;> simp
    · simp at hparts
  · simpa using expand_ne_nil _ _ _

theorem placeMark_ne_nil (c : Char) (text : List Char) : placeMark c text ≠ [] := by
  cases text with
  | nil => simp [placeMark]
  | cons d rest =>
    rw [placeMark]
    split <;> simp

theorem composeAfter_ne_nil (starter : Char) (held text : List Char) :
    composeAfter starter held text ≠ [] := by
  induction text generalizing starter held with
  | nil => simp [composeAfter]
  | cons c rest ih =>
    rw [composeAfter]
    split
    · -- `c` is taken into the starter
      exact ih _ _
    · split
      · simp
      · -- `c` is a mark that is held back
        exact ih _ _

/-- Composition loses no text altogether. -/
theorem compose_eq_nil_iff {text : List Char} : compose text = [] ↔ text = [] := by
  constructor
  · intro h
    cases text with
    | nil => rfl
    | cons c rest =>
      exfalso
      -- the first character leaves something behind in the decomposed text
      have hsorted : decomposeText (c :: rest) ≠ [] := by
        rw [decomposeText, List.flatMap_cons]
        cases hc : decompose c with
        | nil => exact absurd hc (decompose_ne_nil c)
        | cons d more => exact placeMark_ne_nil d _
      rw [compose] at h
      cases hd : decomposeText (c :: rest) with
      | nil => exact hsorted hd
      | cons d more =>
        -- and the composed text begins with a starter, or with a mark before all starters
        rw [hd, composeMarks] at h
        split at h
        · exact composeAfter_ne_nil _ _ _ h
        · simp at h
  · rintro rfl
    rfl

end Unicode

/-- Spelling out characters loses no text altogether. -/
theorem flatMap_eq_nil_iff_of_ne_nil {spell : Char → List Char} (h : ∀ c, spell c ≠ [])
    {text : List Char} : text.flatMap spell = [] ↔ text = [] := by
  cases text with
  | nil => simp
  | cons c rest => simp [h c]

/-- Only the empty text has an empty normal form. -/
theorem Comparison.normalForm_eq_nil_iff (c : Comparison) {text : List Char} :
    c.normalForm text = [] ↔ text = [] := by
  have hculture : (if c.ignoresCase then
      Unicode.compose ((Unicode.compose text).flatMap Unicode.foldCase)
      else Unicode.compose text) = [] ↔ text = [] := by
    split
    · rw [Unicode.compose_eq_nil_iff, flatMap_eq_nil_iff_of_ne_nil Unicode.foldCase_ne_nil,
        Unicode.compose_eq_nil_iff]
    · exact Unicode.compose_eq_nil_iff
  rw [normalForm]
  cases c.collation with
  | ordinal =>
    dsimp only
    split
    · exact flatMap_eq_nil_iff_of_ne_nil Unicode.uppercase_ne_nil
    · exact Iff.rfl
  | currentCulture => exact hculture
  | invariantCulture => exact hculture

end TermSearch
