import TermSearch.Proofs.Comparison.NormalForm

/-!
# Boundaries of Composition

Where a text can be cut without a difference to composition: in front of a starter that composes
with nothing in front of it. No mark changes places with a starter, and so whatever stands in front
of such a character is composed to an end before it, and whatever stands behind is composed from it
on.

## Main definitions

- `joins`: a character composes with some character in front of it.
- `beginsApart`: a text begins with a boundary.

## Main statements

- `compose_append`: composition of a text that is cut at a boundary.
-/

namespace TermSearch.Unicode

/-! ## Characters that join others -/

/-- Whether the character may stand second in a pair that composes. -/
def joins (c : Char) : Bool :=
  joiners.contains c.toNat || Hangul.isVowel c.toNat || Hangul.isTrailing c.toNat

/-- Composites are found for joiners only, and each comes from a pair. -/
theorem mem_of_find?_compositeMap {n offset : Nat} {composites : List (Nat × Nat)}
    (h : compositeMap.find? n = some (offset, composites)) :
    n ∈ joiners ∧ ∀ first composite, (first, composite) ∈ composites →
      (composite, first, n) ∈ canonicalPairs := by
  unfold compositeMap at h
  obtain ⟨joiner, hjoiner, rfl, rfl⟩ :=
    @RangeMap.exists_mem_of_find?_keyed _ _ joiners (·) _ _ _ _ h
  refine ⟨hjoiner, fun first composite hcomposite => ?_⟩
  obtain ⟨⟨m, a, b⟩, hentry, hpair⟩ := List.mem_filterMap.mp hcomposite
  obtain ⟨⟨rfl, -⟩, rfl, rfl⟩ : (b = joiner ∧ _) ∧ a = first ∧ m = composite := by
    simpa using hpair
  exact hentry

/-- Nothing composes with a character that does not join. -/
theorem compose?_eq_none {c : Char} (h : joins c = false) (a : Char) : compose? a c = none := by
  rw [joins, Bool.or_eq_false_iff, Bool.or_eq_false_iff] at h
  obtain ⟨⟨hjoiner, hvowel⟩, htrailing⟩ := h
  have hhangul : Hangul.compose? a.toNat c.toNat = none := by
    simp [Hangul.compose?, hvowel, htrailing]
  have hfind : compositeMap.find? c.toNat = none := by
    rw [Option.eq_none_iff_forall_ne_some]
    rintro ⟨offset, composites⟩ hfind
    rw [List.contains_iff_mem.mpr (mem_of_find?_compositeMap hfind).1] at hjoiner
    exact Bool.noConfusion hjoiner
  rw [compose?, hhangul, hfind]
  rfl

/-! ## The order of marks -/

section

variable {d : Char}

theorem combiningClass_of_isStarter (h : isStarter d = true) : combiningClass d = 0 :=
  beq_iff_eq.mp h

/-- No mark is placed behind a starter. -/
theorem placeMark_append (h : isStarter d = true) (c : Char) (front back : List Char) :
    placeMark c (front ++ d :: back) = placeMark c front ++ d :: back := by
  induction front with
  | nil => simp [placeMark, h]
  | cons x rest ih =>
    rw [List.cons_append, placeMark, placeMark, ih]
    split <;> rfl

/-- A starter is left where it stands. -/
theorem sortMarks_cons (h : isStarter d = true) (back : List Char) :
    sortMarks (d :: back) = d :: sortMarks back := by
  rw [sortMarks]
  cases sortMarks back with
  | nil => rfl
  | cons x rest => simp [placeMark, combiningClass_of_isStarter h]

/-- Marks are put in order up to a starter, and from it on. -/
theorem sortMarks_append (h : isStarter d = true) (front back : List Char) :
    sortMarks (front ++ d :: back) = sortMarks front ++ sortMarks (d :: back) := by
  induction front with
  | nil => rfl
  | cons x rest ih =>
    rw [List.cons_append, sortMarks, ih, sortMarks_cons h, placeMark_append h, sortMarks]

/-! ## Composition -/

/-- What follows a starter is composed up to the next boundary, and from it on. -/
theorem composeAfter_append (hstarter : isStarter d = true) (hjoins : joins d = false)
    (starter : Char) (held front back : List Char) :
    composeAfter starter held (front ++ d :: back) =
      composeAfter starter held front ++ composeAfter d [] back := by
  -- what the starter has become and what is held back change on the way
  induction front generalizing starter held with
  | nil =>
    simp [composeAfter, compose?_eq_none hjoins, hstarter]
  | cons x rest ih =>
    rw [List.cons_append, composeAfter, composeAfter]
    split
    · exact ih _ _
    · split
      · rw [ih, List.append_assoc]
      · exact ih _ _

/-- A text is composed up to a boundary, and from it on. -/
theorem composeMarks_append (hstarter : isStarter d = true) (hjoins : joins d = false)
    (front back : List Char) :
    composeMarks (front ++ d :: back) = composeMarks front ++ composeMarks (d :: back) := by
  have hback : composeMarks (d :: back) = composeAfter d [] back := by
    rw [composeMarks, if_pos hstarter]
  induction front with
  | nil => rfl
  | cons x rest ih =>
    rw [List.cons_append, composeMarks, composeMarks]
    split
    · rw [composeAfter_append hstarter hjoins, hback]
    · rw [ih, List.cons_append]

end

/-! ## Boundaries -/

/-- Whether a text begins, once it is decomposed, with a starter that composes with nothing in front
of it. -/
def beginsApart (text : List Char) : Bool :=
  (text.flatMap decompose).head?.all fun d => isStarter d && !joins d

/-- Whether a text begins apart is decided by its first characters. -/
theorem beginsApart_append {front : List Char} (h : front ≠ []) (back : List Char) :
    beginsApart (front ++ back) = beginsApart front := by
  have hfront : front.flatMap decompose ≠ [] := by
    rwa [Ne, flatMap_eq_nil_iff_of_ne_nil decompose_ne_nil]
  rw [beginsApart, List.flatMap_append, beginsApart]
  cases hd : front.flatMap decompose with
  | nil => exact absurd hd hfront
  | cons d rest => rfl

/-- A text is composed up to a place where the rest begins apart, and from there on. -/
theorem compose_append {back : List Char} (h : beginsApart back = true) (front : List Char) :
    compose (front ++ back) = compose front ++ compose back := by
  rw [compose, compose, compose, decomposeText, decomposeText, decomposeText, List.flatMap_append]
  rw [beginsApart] at h
  cases hback : back.flatMap decompose with
  | nil => simp [sortMarks, composeMarks]
  | cons d rest =>
    -- neither marks nor starters in front get past the first character of the rest
    rw [hback] at h
    obtain ⟨hstarter, hjoins⟩ : isStarter d = true ∧ joins d = false := by simpa using h
    rw [sortMarks_append hstarter, sortMarks_cons hstarter, composeMarks_append hstarter hjoins]

end TermSearch.Unicode
