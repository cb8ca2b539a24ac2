import TermSearch.Comparison.Checks
import TermSearch.Proofs.Comparison.NormalForm
import TermSearch.Proofs.Text.Packing

/-!
# Spelling Out Characters

What becomes of the matches in a text where each character is replaced by some characters, the same
ones wherever it stands. The text falls into the spellings of its parts, so a match is spelled out
to a match. Occurrences that do not overlap are spelled out to occurrences that do not overlap; so
there are no fewer of them, however the greatest packings of the two texts may lie.

Upper case is such a spelling.

## Main statements

- `Text.IsPacking.image_spelledPlace`: a packing is spelled out to a packing.
- `Text.count_le_count_flatMap`: a term is counted no less often where term and text are spelled
  out.
- `Comparison.ignoringCase_keeps_ordinal`: ordinal comparison loses no match and no occurrence where
  case is ignored.
-/

namespace TermSearch

namespace Text

variable {spell : Char → List Char} {term text : List Char}

/-! ## Places -/

/-- Where the spelling of the characters in front of a place ends. -/
def spelledPlace (spell : Char → List Char) (text : List Char) (place : Nat) : Nat :=
  ((text.take place).flatMap spell).length

/-- Places keep their order. -/
theorem spelledPlace_mono {i j : Nat} (h : i ≤ j) :
    spelledPlace spell text i ≤ spelledPlace spell text j :=
  ((List.take_prefix_take_left h).flatMap spell).length_le

/-- An occurrence is spelled out to an occurrence. -/
theorem OccursAt.flatMap {place : Nat} (h : OccursAt .anywhere term text place) :
    OccursAt .anywhere (term.flatMap spell) (text.flatMap spell)
      (spelledPlace spell text place) := by
  obtain ⟨before, after, rfl, rfl, -⟩ := h
  refine ⟨before.flatMap spell, after.flatMap spell, ?_, ?_, rfl⟩
  · rw [List.flatMap_append, List.flatMap_append]
  · rw [spelledPlace, List.append_assoc, List.take_left]

/-- The place behind an occurrence comes behind the spelling of the term. -/
theorem OccursAt.spelledPlace_add {place : Nat} (h : OccursAt .anywhere term text place) :
    spelledPlace spell text (place + term.length) =
      spelledPlace spell text place + (term.flatMap spell).length := by
  obtain ⟨before, after, rfl, rfl, -⟩ := h
  have hbehind : (before ++ term ++ after).take (before.length + term.length) = before ++ term := by
    rw [← List.length_append, List.take_left]
  have hfront : (before ++ term ++ after).take before.length = before := by
    rw [List.append_assoc, List.take_left]
  rw [spelledPlace, spelledPlace, hbehind, hfront, List.flatMap_append, List.length_append]

/-! ## Packings -/

namespace IsPacking

variable {places : Finset Nat}

/-- Of two occurrences of a packing, the first is spelled out to one that ends before the other. -/
theorem spelledPlace_add_le (h : IsPacking .anywhere term text places) {i j : Nat}
    (hi : i ∈ places) (hj : j ∈ places) (hlt : i < j) :
    spelledPlace spell text i + (term.flatMap spell).length ≤ spelledPlace spell text j := by
  rw [← (h.occursAt i hi).spelledPlace_add]
  exact spelledPlace_mono (h.apart i hi j hj hlt)

/-- A packing is spelled out to a packing. -/
theorem image_spelledPlace (h : IsPacking .anywhere term text places) :
    IsPacking .anywhere (term.flatMap spell) (text.flatMap spell)
      (places.image (spelledPlace spell text)) where
  occursAt i hi := by
    obtain ⟨place, hplace, rfl⟩ := Finset.mem_image.mp hi
    exact (h.occursAt place hplace).flatMap
  apart i hi j hj hlt := by
    obtain ⟨first, hfirst, rfl⟩ := Finset.mem_image.mp hi
    obtain ⟨second, hsecond, rfl⟩ := Finset.mem_image.mp hj
    -- places keep their order, so the occurrence that comes first did so before
    have horder : first < second := by
      by_contra hnot
      have hle : spelledPlace spell text second ≤ spelledPlace spell text first :=
        spelledPlace_mono (Nat.le_of_not_lt hnot)
      omega
    exact h.spelledPlace_add_le hfirst hsecond horder

/-- Where the term is spelled by some characters, no two occurrences of a packing become one. -/
theorem card_image_spelledPlace (h : IsPacking .anywhere term text places)
    (hterm : term.flatMap spell ≠ []) :
    (places.image (spelledPlace spell text)).card = places.card := by
  have hlength : 0 < (term.flatMap spell).length := List.length_pos_iff.mpr hterm
  -- a later occurrence is spelled out to a later one
  have hstrict : ∀ i ∈ places, ∀ j ∈ places, i < j →
      spelledPlace spell text i < spelledPlace spell text j := by
    intro i hi j hj hlt
    exact lt_of_lt_of_le (Nat.lt_add_of_pos_right hlength) (h.spelledPlace_add_le hi hj hlt)
  refine Finset.card_image_of_injOn fun i hi j hj heq => ?_
  rcases Nat.lt_trichotomy i j with hlt | hsame | hlt
  · exact absurd heq (Nat.ne_of_lt (hstrict i hi j hj hlt))
  · exact hsame
  · exact absurd heq.symm (Nat.ne_of_lt (hstrict j hj i hi hlt))

end IsPacking

/-- A term is counted no less often where term and text are spelled out. -/
theorem count_le_count_flatMap (hspell : ∀ c, spell c ≠ []) (term text : List Char) :
    count .anywhere term text ≤ count .anywhere (term.flatMap spell) (text.flatMap spell) := by
  by_cases hterm : term = []
  · simp [hterm, count]
  · have hspelled : term.flatMap spell ≠ [] := fun hnil =>
      hterm ((flatMap_eq_nil_iff_of_ne_nil hspell).mp hnil)
    -- the occurrences that are counted are spelled out to a packing, and none has more than counted
    have hpacking : IsPacking .anywhere term text (matchStarts .anywhere term text).toFinset :=
      isPacking_matchStarts hterm text
    calc count .anywhere term text
        = (matchStarts .anywhere term text).toFinset.card := (card_matchStarts hterm text).symm
      _ = ((matchStarts .anywhere term text).toFinset.image (spelledPlace spell text)).card :=
          (hpacking.card_image_spelledPlace hspelled).symm
      _ ≤ count .anywhere (term.flatMap spell) (text.flatMap spell) :=
          hpacking.image_spelledPlace.card_le_count hspelled

/-- A term that occurs is spelled out to one that occurs. -/
theorem Occurs.flatMap (h : Occurs .anywhere term text) :
    Occurs .anywhere (term.flatMap spell) (text.flatMap spell) := by
  obtain ⟨before, after, rfl, -⟩ := h
  exact ⟨before.flatMap spell, after.flatMap spell,
    by rw [List.flatMap_append, List.flatMap_append], rfl⟩

end Text

/-! ## Upper case -/

/-- Whatever value is searched for whatever term: where the term occurs, begins the value, ends it
or is equal to it, it does so too where case is ignored, and it has no fewer occurrences. -/
theorem Comparison.ignoringCase_keeps_ordinal (value : Option String) (term : String) :
    (contains ⟨.ordinal, false⟩ .anywhere value term = true →
      contains ⟨.ordinal, true⟩ .anywhere value term = true) ∧
    (startsWith ⟨.ordinal, false⟩ value term = true →
      startsWith ⟨.ordinal, true⟩ value term = true) ∧
    (endsWith ⟨.ordinal, false⟩ value term = true →
      endsWith ⟨.ordinal, true⟩ value term = true) ∧
    (equals ⟨.ordinal, false⟩ value term = true → equals ⟨.ordinal, true⟩ value term = true) ∧
    countOccurrences ⟨.ordinal, false⟩ .anywhere value term ≤
      countOccurrences ⟨.ordinal, true⟩ .anywhere value term := by
  cases value with
  | none => simp [contains, startsWith, endsWith, equals, countOccurrences]
  | some text =>
    refine ⟨fun h => ?_, fun h => ?_, fun h => ?_, fun h => ?_,
      Text.count_le_count_flatMap Unicode.uppercase_ne_nil term.toList text.toList⟩
    · exact Text.occurs_eq_true_iff.mpr (Text.occurs_eq_true_iff.mp h).flatMap
    · exact List.isPrefixOf_iff_prefix.mpr
        ((List.isPrefixOf_iff_prefix.mp h).flatMap Unicode.uppercase)
    · exact List.isSuffixOf_iff_suffix.mpr
        ((List.isSuffixOf_iff_suffix.mp h).flatMap Unicode.uppercase)
    · exact beq_iff_eq.mpr (congrArg (List.flatMap Unicode.uppercase) (beq_iff_eq.mp h))

end TermSearch
