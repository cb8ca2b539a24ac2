import TermSearch.Text.Occurrence

/-!
# Occurrences

What it means that a term occurs in a text, and that the passage along the text finds out. A
term that is not empty is counted at all where it occurs.

## Main statements

- `Text.occurs_eq_true_iff`: the passage along the text decides `Text.Occurs`.
- `Text.count_pos_iff`: a term is counted where it occurs.
-/

namespace TermSearch.Text

variable {placement : Placement} {term : List Char}

/-- The term stands somewhere in the text, between neighbours that the placement allows. -/
def Occurs (placement : Placement) (term text : List Char) : Prop :=
  ∃ before after, text = before ++ term ++ after ∧
    placement.allows before.getLast? after.head? = true

theorem occursHere_eq_true_iff {before : Option Char} {rest : List Char} :
    occursHere placement term before rest = true ↔
      ∃ after, rest = term ++ after ∧ placement.allows before after.head? = true := by
  rw [occursHere, Bool.and_eq_true, List.isPrefixOf_iff_prefix]
  constructor
  · rintro ⟨⟨after, rfl⟩, hallows⟩
    exact ⟨after, rfl, by simpa using hallows⟩
  · rintro ⟨after, rfl, hallows⟩
    exact ⟨List.prefix_append term after, by simpa using hallows⟩

/-- What is in front of a place is the last character that was passed, or else what was there
before the passage began. -/
private theorem occursFrom_eq_true_iff {before : Option Char} {rest : List Char} :
    occursFrom placement term before rest = true ↔
      ∃ passed after, rest = passed ++ (term ++ after) ∧
        placement.allows (passed.getLast?.or before) after.head? = true := by
  -- the character in front changes with every step, so the statement is for all of them
  induction rest generalizing before with
  | nil =>
    rw [occursFrom, occursHere_eq_true_iff]
    constructor
    · rintro ⟨after, hrest, hallows⟩
      exact ⟨[], after, hrest, hallows⟩
    · rintro ⟨passed, after, hrest, hallows⟩
      obtain ⟨rfl, htail⟩ := List.nil_eq_append_iff.mp hrest
      exact ⟨after, htail.symm, hallows⟩
  | cons c rest ih =>
    have hlast : ∀ passed : List Char,
        (c :: passed).getLast?.or before = passed.getLast?.or (some c) := by
      intro passed
      rw [List.getLast?_cons]
      cases passed.getLast? <;> rfl
    rw [occursFrom, Bool.or_eq_true, occursHere_eq_true_iff, ih]
    -- an occurrence begins at this place, or behind it with `c` passed
    constructor
    · rintro (⟨after, hrest, hallows⟩ | ⟨passed, after, rfl, hallows⟩)
      · exact ⟨[], after, hrest, hallows⟩
      · exact ⟨c :: passed, after, rfl, by rw [hlast]; exact hallows⟩
    · rintro ⟨passed, after, hrest, hallows⟩
      cases passed with
      | nil => exact .inl ⟨after, hrest, hallows⟩
      | cons first passed =>
        obtain ⟨rfl, rfl⟩ : c = first ∧ rest = passed ++ (term ++ after) := by
          simpa using hrest
        exact .inr ⟨passed, after, rfl, by rw [← hlast]; exact hallows⟩

/-- The passage along a text finds out whether the term occurs in it. -/
theorem occurs_eq_true_iff {text : List Char} :
    occurs placement term text = true ↔ Occurs placement term text := by
  rw [occurs, occursFrom_eq_true_iff, Occurs]
  simp only [Option.or_none, List.append_assoc]

/-- As long as nothing was taken, an occurrence is taken where there is one. -/
private theorem matchStartsFrom_ne_nil_iff {before : Option Char} {position : Nat}
    {rest : List Char} :
    matchStartsFrom placement term before position 0 rest ≠ [] ↔
      occursFrom placement term before rest = true := by
  induction rest generalizing before position with
  | nil =>
    rw [matchStartsFrom, occursFrom]
    split <;> simp_all
  | cons c rest ih =>
    rw [matchStartsFrom, occursFrom]
    cases h : occursHere placement term before (c :: rest) with
    | true => simp
    | false => simpa using ih

/-- Some occurrence of a term is taken where it occurs. -/
theorem matchStarts_ne_nil_iff {text : List Char} :
    matchStarts placement term text ≠ [] ↔ occurs placement term text = true :=
  matchStartsFrom_ne_nil_iff

/-- A term that is not empty is counted where it occurs. -/
theorem count_pos_iff {text : List Char} (h : term ≠ []) :
    0 < count placement term text ↔ occurs placement term text = true := by
  have hterm : term.isEmpty = false := by simpa using h
  rw [count, hterm, if_neg Bool.false_ne_true, List.length_pos_iff, matchStarts_ne_nil_iff]

end TermSearch.Text
