import Mathlib.Data.List.Chain
import TermSearch.Proofs.Unicode.WordEdges

/-!
# The Order of Marks

When two texts come to the same order of marks. Putting marks into order is an insertion sort
that starters cut off, and so it can be taken up in the middle: what stands in front of a text
is inserted into what has become of the text. Neighbouring marks of different classes may change
places before that without a difference, and a text in order stays as it is.

## Main definitions

- `InOrder`: no mark stands directly behind one of a higher class.
- `Held`: the marks that do not compose are in order, and belong in front of what follows.

## Main statements

- `sortMarks_append_congr`: what stands in front of texts that are put into the same order.
- `sortMarks_move`: a mark may move in front of marks of lower classes.
- `inOrder_sortMarks`, `InOrder.sortMarks_eq`: the texts in order are those that are put in order.
-/

namespace TermSearch.Unicode

/-! ## One mark -/

/-- A character that is placed before a text moves behind a mark of lower class. -/
theorem placeMark_cons_of_lt {c d : Char} (hd : isStarter d = false)
    (hlt : combiningClass d < combiningClass c) (rest : List Char) :
    placeMark c (d :: rest) = d :: placeMark c rest := by
  simp [placeMark, hd, hlt]

/-- It stays in front of every other character. -/
theorem placeMark_cons_of_not {c d : Char}
    (h : ¬(isStarter d = false ∧ combiningClass d < combiningClass c)) (rest : List Char) :
    placeMark c (d :: rest) = c :: d :: rest := by
  rw [placeMark, if_neg]
  simpa using h

/-- Two marks of different classes are placed before a text in either order. -/
theorem placeMark_comm {c d : Char} (hc : isStarter c = false)
    (hlt : combiningClass c < combiningClass d) (text : List Char) :
    placeMark c (placeMark d text) = placeMark d (placeMark c text) := by
  have hnot : ¬(isStarter d = false ∧ combiningClass d < combiningClass c) := by
    rintro ⟨-, h⟩
    omega
  induction text with
  | nil =>
    rw [placeMark, placeMark, placeMark_cons_of_lt hc hlt, placeMark_cons_of_not hnot, placeMark]
  | cons x rest ih =>
    by_cases hpast : isStarter x = false ∧ combiningClass x < combiningClass c
    · -- both move behind the first character
      obtain ⟨hx, hxc⟩ := hpast
      have hxd : combiningClass x < combiningClass d := Nat.lt_trans hxc hlt
      rw [placeMark_cons_of_lt hx hxd, placeMark_cons_of_lt hx hxc, placeMark_cons_of_lt hx hxc,
        placeMark_cons_of_lt hx hxd, ih]
    · -- the one of lower class comes first, whatever becomes of the other one
      rw [placeMark_cons_of_not hpast, placeMark_cons_of_lt hc hlt]
      by_cases hpast' : isStarter x = false ∧ combiningClass x < combiningClass d
      · rw [placeMark_cons_of_lt hpast'.1 hpast'.2, placeMark_cons_of_not hpast]
      · rw [placeMark_cons_of_not hpast', placeMark_cons_of_not hnot]

/-! ## Texts -/

/-- What stands in front of texts that are put into the same order makes no difference. -/
theorem sortMarks_append_congr {text other : List Char} (h : sortMarks text = sortMarks other)
    (front : List Char) : sortMarks (front ++ text) = sortMarks (front ++ other) := by
  induction front with
  | nil => exact h
  | cons c rest ih => rw [List.cons_append, List.cons_append, sortMarks, sortMarks, ih]

/-- A mark may move in front of marks of lower classes. -/
theorem sortMarks_move {c : Char} {marks : List Char}
    (h : ∀ d ∈ marks, isStarter d = false ∧ combiningClass d < combiningClass c)
    (rest : List Char) :
    sortMarks (marks ++ c :: rest) = sortMarks (c :: (marks ++ rest)) := by
  induction marks with
  | nil => rfl
  | cons d marks ih =>
    obtain ⟨⟨hd, hlt⟩, hmarks⟩ := List.forall_mem_cons.mp h
    rw [List.cons_append, sortMarks, ih hmarks, sortMarks, placeMark_comm hd hlt]
    rfl

/-- No mark stands directly behind one of a higher class. -/
def InOrder (text : List Char) : Prop :=
  text.IsChain fun c d => isStarter d = true ∨ combiningClass c ≤ combiningClass d

/-- In front of a text comes a character that is placed there, or the first one of the text. -/
theorem head?_placeMark {c d : Char} {text : List Char} (h : d ∈ (placeMark c text).head?) :
    d = c ∨ d ∈ text.head? := by
  cases text with
  | nil => exact .inl (Option.some.inj h).symm
  | cons x rest =>
    rw [placeMark] at h
    split at h
    · exact .inr h
    · exact .inl (Option.some.inj h).symm

/-- A character that is placed before a text in order leaves it in order. -/
theorem InOrder.placeMark {text : List Char} (h : InOrder text) (c : Char) :
    InOrder (placeMark c text) := by
  induction text with
  | nil => exact List.isChain_singleton c
  | cons x rest ih =>
    obtain ⟨hfirst, hrest⟩ := List.isChain_cons.mp h
    by_cases hpast : isStarter x = false ∧ combiningClass x < combiningClass c
    · rw [placeMark_cons_of_lt hpast.1 hpast.2]
      refine List.isChain_cons.mpr ⟨fun d hd => ?_, ih hrest⟩
      rcases head?_placeMark hd with rfl | hd
      · exact .inr (Nat.le_of_lt hpast.2)
      · exact hfirst d hd
    · rw [placeMark_cons_of_not hpast]
      refine List.isChain_cons_cons.mpr ⟨?_, h⟩
      cases hx : isStarter x with
      | true => exact .inl rfl
      | false => exact .inr (Nat.le_of_not_lt fun hlt => hpast ⟨hx, hlt⟩)

/-- Marks are put in order. -/
theorem inOrder_sortMarks (text : List Char) : InOrder (sortMarks text) := by
  induction text with
  | nil => exact List.isChain_nil
  | cons c rest ih => exact ih.placeMark c

/-- A text in order stays as it is. -/
theorem InOrder.sortMarks_eq {text : List Char} (h : InOrder text) : sortMarks text = text := by
  induction text with
  | nil => rfl
  | cons c rest ih =>
    obtain ⟨hfirst, hrest⟩ := List.isChain_cons.mp h
    rw [sortMarks, ih hrest]
    cases rest with
    | nil => rfl
    | cons d rest =>
      refine placeMark_cons_of_not ?_ rest
      rintro ⟨hd, hlt⟩
      rcases hfirst d rfl with hstarter | hle
      · rw [hd] at hstarter
        exact Bool.noConfusion hstarter
      · omega

/-! ## Marks held back -/

/-- The marks that are held back while a text is composed: they are in order, and none of them
belongs behind a mark that follows. -/
structure Held (held text : List Char) : Prop where
  mark : ∀ d ∈ held, isStarter d = false
  sorted : held.Pairwise fun d e => combiningClass e ≤ combiningClass d
  before : ∀ d ∈ held, ∀ c ∈ text.head?, isStarter c = true ∨ combiningClass d ≤ combiningClass c

/-- A mark that is cut off from the starter by none of the marks held back is of a higher class than
all of them. -/
theorem Held.lt_of_not_isBlocked {held text : List Char} {c : Char} (h : Held held text)
    (hblocked : isBlocked held c = false) : ∀ d ∈ held, combiningClass d < combiningClass c := by
  cases held with
  | nil => simp
  | cons mark rest =>
    have hlt : combiningClass mark < combiningClass c := by simpa [isBlocked] using hblocked
    exact List.forall_mem_cons.mpr
      ⟨hlt, fun d hd => Nat.lt_of_le_of_lt (List.rel_of_pairwise_cons h.sorted hd) hlt⟩

/-- Behind a character of the text, the marks held back belong in front of the next one as well. -/
theorem Held.before_next {held rest : List Char} {c : Char} (h : ∀ d ∈ held,
    combiningClass d ≤ combiningClass c) (horder : InOrder (c :: rest)) :
    ∀ d ∈ held, ∀ next ∈ rest.head?,
      isStarter next = true ∨ combiningClass d ≤ combiningClass next := by
  intro d hd next hnext
  exact ((List.isChain_cons.mp horder).1 next hnext).imp_right (Nat.le_trans (h d hd))

/-- A mark that does not compose is held back behind the others. -/
theorem Held.cons {held rest : List Char} {c : Char} (h : Held held (c :: rest))
    (hc : isStarter c = false) (horder : InOrder (c :: rest)) : Held (c :: held) rest := by
  have hle : ∀ d ∈ held, combiningClass d ≤ combiningClass c := by
    intro d hd
    simpa [hc] using h.before d hd c rfl
  refine ⟨List.forall_mem_cons.mpr ⟨hc, h.mark⟩, List.pairwise_cons.mpr ⟨hle, h.sorted⟩, ?_⟩
  exact Held.before_next (List.forall_mem_cons.mpr ⟨Nat.le_refl _, hle⟩) horder

end TermSearch.Unicode
