import Mathlib.Algebra.Order.BigOperators.Group.Finset
import Mathlib.Data.Finset.Max
import Mathlib.Order.Interval.Finset.Nat
import TermSearch.Proofs.Text.Occurrence

/-!
# Packings of Occurrences

Sets of places at which a term occurs in a text, without one occurrence overlapping another. The
passage along a text that counts a term takes the first occurrence that it comes to, and goes on
behind it. No packing has more occurrences than the passage takes: the first occurrence of a packing
does not end before the first one that is taken, so this one can stand for it, and the others of the
packing are still to come behind it.

## Main definitions

- `Text.OccursAt`: a term occurs at a place of a text.
- `Text.IsPacking`: occurrences at some places do not overlap.

## Main statements

- `Text.isPacking_matchStarts`: the occurrences that are taken do not overlap.
- `Text.IsPacking.card_le_count`: no packing has more of them.
- `Text.count_isGreatest`: the count is the size of the greatest packing.
-/

namespace TermSearch.Text

variable {placement : Placement} {term text : List Char}

/-! ## Occurrences at places -/

/-- The term stands at a place of the text, between neighbours that the placement allows. -/
def OccursAt (placement : Placement) (term text : List Char) (place : Nat) : Prop :=
  ∃ before after, text = before ++ term ++ after ∧ before.length = place ∧
    placement.allows before.getLast? after.head? = true

/-- An occurrence ends within the text. -/
theorem OccursAt.add_length_le {place : Nat} (h : OccursAt placement term text place) :
    place + term.length ≤ text.length := by
  obtain ⟨before, after, rfl, rfl, -⟩ := h
  simp only [List.length_append]
  omega

/-- Every placement allows no more than to stand anywhere. -/
theorem OccursAt.anywhere {place : Nat} (h : OccursAt placement term text place) :
    OccursAt .anywhere term text place := by
  obtain ⟨before, after, htext, hplace, -⟩ := h
  exact ⟨before, after, htext, hplace, rfl⟩

/-- The term occurs at the place that a passage has come to, if it occurs in front of it. -/
theorem occursAt_length_iff {passed rest : List Char} :
    OccursAt placement term (passed ++ rest) passed.length ↔
      occursHere placement term passed.getLast? rest = true := by
  rw [occursHere_eq_true_iff]
  constructor
  · rintro ⟨before, after, htext, hplace, hallows⟩
    rw [List.append_assoc] at htext
    obtain ⟨rfl, rfl⟩ := List.append_inj htext hplace.symm
    exact ⟨after, rfl, hallows⟩
  · rintro ⟨after, rfl, hallows⟩
    exact ⟨passed, after, (List.append_assoc _ _ _).symm, rfl, hallows⟩

/-! ## Packings -/

/-- Places at which the term occurs, without one occurrence overlapping another. -/
structure IsPacking (placement : Placement) (term text : List Char) (places : Finset Nat) :
    Prop where
  occursAt : ∀ i ∈ places, OccursAt placement term text i
  apart : ∀ i ∈ places, ∀ j ∈ places, i < j → i + term.length ≤ j

namespace IsPacking

variable {places others : Finset Nat}

/-- Some of the occurrences of a packing make a packing. -/
theorem subset (h : IsPacking placement term text places) (hsubset : others ⊆ places) :
    IsPacking placement term text others where
  occursAt i hi := h.occursAt i (hsubset hi)
  apart i hi j hj := h.apart i (hsubset hi) j (hsubset hj)

/-- A packing is one of occurrences anywhere. -/
theorem anywhere (h : IsPacking placement term text places) :
    IsPacking .anywhere term text places where
  occursAt i hi := (h.occursAt i hi).anywhere
  apart := h.apart

/-- The occurrences of a packing have room in the text side by side. -/
theorem card_mul_length_le (h : IsPacking placement term text places) :
    places.card * term.length ≤ text.length := by
  -- each occurrence fills an interval of places of its own
  have hdisjoint : (places : Set Nat).PairwiseDisjoint
      fun i => Finset.Ico i (i + term.length) := by
    intro i hi j hj hne
    refine Finset.disjoint_left.mpr fun k hki hkj => ?_
    rw [Finset.mem_Ico] at hki hkj
    rcases Nat.lt_or_gt_of_ne hne with hlt | hgt
    · have := h.apart i hi j hj hlt
      omega
    · have := h.apart j hj i hi hgt
      omega
  have hwithin : (places.biUnion fun i => Finset.Ico i (i + term.length)) ⊆
      Finset.range text.length := by
    intro k hk
    obtain ⟨i, hi, hki⟩ := Finset.mem_biUnion.mp hk
    have hend := (h.occursAt i hi).add_length_le
    rw [Finset.mem_Ico] at hki
    exact Finset.mem_range.mpr (by omega)
  calc places.card * term.length
      = (places.biUnion fun i => Finset.Ico i (i + term.length)).card := by
        rw [Finset.card_biUnion hdisjoint]
        simp
    _ ≤ (Finset.range text.length).card := Finset.card_le_card hwithin
    _ = text.length := Finset.card_range _

end IsPacking

/-! ## The occurrences that are taken -/

/-- Nothing is left to occur at the end of a text. -/
private theorem occursHere_nil (h : term ≠ []) (before : Option Char) :
    occursHere placement term before [] = false := by
  rw [Bool.eq_false_iff]
  intro hhere
  obtain ⟨after, hrest, -⟩ := occursHere_eq_true_iff.mp hhere
  exact h (List.append_eq_nil_iff.mp hrest.symm).1

/-- From a place on, with some characters to skip, a passage takes occurrences behind these
characters, and each one behind the end of the one before. -/
theorem matchStartsFrom_spec (h : term ≠ []) {passed rest : List Char} {skip : Nat} :
    (∀ i ∈ matchStartsFrom placement term passed.getLast? passed.length skip rest,
      OccursAt placement term (passed ++ rest) i ∧ passed.length + skip ≤ i) ∧
    (matchStartsFrom placement term passed.getLast? passed.length skip rest).Pairwise
      fun i j => i + term.length ≤ j := by
  have hlength : 0 < term.length := List.length_pos_iff.mpr h
  -- along the text; what has been passed grows by a character with every step
  induction rest generalizing passed skip with
  | nil => simp [matchStartsFrom, occursHere_nil h]
  | cons c rest ih =>
    have hstep : ∀ skip, _ := fun skip => @ih (passed ++ [c]) skip
    simp only [List.getLast?_append, List.getLast?_singleton, Option.some_or,
      List.length_append, List.length_singleton, List.append_assoc, List.singleton_append]
      at hstep
    cases skip with
    | succ skip =>
      -- the character belongs to an occurrence already taken
      obtain ⟨hoccurs, hapart⟩ := hstep skip
      rw [matchStartsFrom]
      refine ⟨fun i hi => ?_, hapart⟩
      obtain ⟨hi, hfrom⟩ := hoccurs i hi
      exact ⟨hi, by omega⟩
    | zero =>
      rw [matchStartsFrom]
      split
      · -- an occurrence is taken here, and the next ones begin behind its end
        next hhere =>
        obtain ⟨hoccurs, hapart⟩ := hstep (term.length - 1)
        refine ⟨fun i hi => ?_, List.pairwise_cons.mpr ⟨fun j hj => ?_, hapart⟩⟩
        · rcases List.mem_cons.mp hi with rfl | hi
          · exact ⟨occursAt_length_iff.mpr hhere, Nat.le_refl _⟩
          · obtain ⟨hi, hfrom⟩ := hoccurs i hi
            exact ⟨hi, by omega⟩
        · have hfrom := (hoccurs j hj).2
          omega
      · -- no occurrence begins here
        obtain ⟨hoccurs, hapart⟩ := hstep 0
        refine ⟨fun i hi => ?_, hapart⟩
        obtain ⟨hi, hfrom⟩ := hoccurs i hi
        exact ⟨hi, by omega⟩

/-- Of two places taken one after the other, the smaller one was taken first. -/
private theorem apart_of_pairwise {size : Nat} {starts : List Nat}
    (h : starts.Pairwise fun i j => i + size ≤ j) :
    ∀ i ∈ starts, ∀ j ∈ starts, i < j → i + size ≤ j := by
  induction starts with
  | nil => simp
  | cons first rest ih =>
    obtain ⟨hfirst, hrest⟩ := List.pairwise_cons.mp h
    intro i hi j hj hlt
    rcases List.mem_cons.mp hi with rfl | hirest
    · rcases List.mem_cons.mp hj with rfl | hjrest
      · omega
      · exact hfirst j hjrest
    · rcases List.mem_cons.mp hj with rfl | hjrest
      · have := hfirst i hirest
        omega
      · exact ih hrest i hirest j hjrest hlt

/-- The occurrences that are taken from a text do not overlap. -/
theorem isPacking_matchStarts (h : term ≠ []) (text : List Char) :
    IsPacking placement term text (matchStarts placement term text).toFinset := by
  obtain ⟨hoccurs, hapart⟩ := @matchStartsFrom_spec placement term h [] text 0
  exact ⟨fun i hi => (hoccurs i (List.mem_toFinset.mp hi)).1, fun i hi j hj =>
    apart_of_pairwise hapart i (List.mem_toFinset.mp hi) j (List.mem_toFinset.mp hj)⟩

/-- No place is taken twice. -/
theorem matchStarts_nodup (h : term ≠ []) (text : List Char) :
    (matchStarts placement term text).Nodup := by
  have hlength : 0 < term.length := List.length_pos_iff.mpr h
  exact (@matchStartsFrom_spec placement term h [] text 0).2.imp fun {i j} hle => by omega

theorem count_eq_length (h : term ≠ []) (text : List Char) :
    count placement term text = (matchStarts placement term text).length := by
  rw [count, if_neg (by simpa using h)]

/-! ## The greatest packing -/

/-- From a place on, with some characters to skip, a passage takes as many occurrences as any
packing has behind these characters. -/
private theorem card_le_length_matchStartsFrom (h : term ≠ []) {passed rest : List Char}
    {skip : Nat} {places : Finset Nat}
    (hplaces : IsPacking placement term (passed ++ rest) places)
    (hfrom : ∀ i ∈ places, passed.length + skip ≤ i) :
    places.card ≤
      (matchStartsFrom placement term passed.getLast? passed.length skip rest).length := by
  have hlength : 0 < term.length := List.length_pos_iff.mpr h
  induction rest generalizing passed skip places with
  | nil =>
    -- there is no room for an occurrence at the end of the text
    have hempty : places = ∅ := by
      rw [Finset.eq_empty_iff_forall_notMem]
      intro i hi
      have hend := (hplaces.occursAt i hi).add_length_le
      have := hfrom i hi
      rw [List.append_nil] at hend
      omega
    simp [hempty]
  | cons c rest ih =>
    have hstep : ∀ skip (others : Finset Nat), _ := fun skip others =>
      @ih (passed ++ [c]) skip others
    simp only [List.getLast?_append, List.getLast?_singleton, Option.some_or,
      List.length_append, List.length_singleton, List.append_assoc, List.singleton_append]
      at hstep
    cases skip with
    | succ skip =>
      rw [matchStartsFrom]
      exact hstep skip places hplaces fun i hi => by have := hfrom i hi; omega
    | zero =>
      rw [matchStartsFrom]
      split
      · -- an occurrence is taken here, in exchange for the first one of the packing
        rcases places.eq_empty_or_nonempty with rfl | hne
        · simp
        · have hfirst := Finset.min'_mem places hne
          have hrest : ∀ j ∈ places.erase (places.min' hne),
              passed.length + 1 + (term.length - 1) ≤ j := by
            intro j hj
            obtain ⟨hj, hmem⟩ := Finset.mem_erase.mp hj
            have hlt := lt_of_le_of_ne (places.min'_le j hmem) (Ne.symm hj)
            have hbehind := hplaces.apart _ hfirst j hmem hlt
            have := hfrom _ hfirst
            omega
          have hcard := hstep (term.length - 1) _ (hplaces.subset (Finset.erase_subset _ _)) hrest
          rw [List.length_cons, ← Finset.card_erase_add_one hfirst]
          exact Nat.succ_le_succ hcard
      · -- no occurrence begins here, so none of the packing does
        next hhere =>
        refine hstep 0 places hplaces fun i hi => ?_
        have hne : i ≠ passed.length := by
          rintro rfl
          exact hhere (occursAt_length_iff.mp (hplaces.occursAt _ hi))
        have := hfrom i hi
        omega

/-- No packing has more occurrences than are taken. -/
theorem IsPacking.card_le_count {places : Finset Nat} (h : term ≠ [])
    (hplaces : IsPacking placement term text places) :
    places.card ≤ count placement term text := by
  rw [count_eq_length h]
  exact @card_le_length_matchStartsFrom placement term h [] text 0 places hplaces
    fun i _ => Nat.zero_le i

/-- The occurrences that are taken are counted. -/
theorem card_matchStarts (h : term ≠ []) (text : List Char) :
    (matchStarts placement term text).toFinset.card = count placement term text := by
  rw [count_eq_length h, List.toFinset_card_of_nodup (matchStarts_nodup h text)]

/-- The count of a term that is not empty is the size of the greatest packing, whether the term may
stand anywhere or has to be whole words. So whole words are counted no more often than occurrences
anywhere, and these have room in the text side by side. -/
theorem count_isGreatest (h : term ≠ []) (text : List Char) :
    (∀ placement, IsGreatest {n | ∃ places, IsPacking placement term text places ∧
      places.card = n} (count placement term text)) ∧
    count .wholeWords term text ≤ count .anywhere term text ∧
    count .anywhere term text * term.length ≤ text.length := by
  have hgreatest : ∀ placement, IsGreatest {n | ∃ places, IsPacking placement term text places ∧
      places.card = n} (count placement term text) := by
    intro placement
    refine ⟨⟨_, isPacking_matchStarts h text, card_matchStarts h text⟩, ?_⟩
    rintro _ ⟨places, hplaces, rfl⟩
    exact hplaces.card_le_count h
  refine ⟨hgreatest, ?_, ?_⟩
  · rw [← card_matchStarts h]
    exact (isPacking_matchStarts h text).anywhere.card_le_count h
  · rw [← card_matchStarts h]
    exact (isPacking_matchStarts h text).card_mul_length_le

/-- A term that overlaps itself, among characters that keep it from being a whole word. -/
theorem count_isGreatest_of_overlapping :
    "a a".toList ≠ [] ∧
      IsGreatest {n | ∃ places, IsPacking .wholeWords "a a".toList "a a a a, a ab".toList places ∧
        places.card = n} 2 ∧
      2 ≤ count .anywhere "a a".toList "a a a a, a ab".toList := by
  have hterm : "a a".toList ≠ [] := by decide
  have hcount : count .wholeWords "a a".toList "a a a a, a ab".toList = 2 := by decide +kernel
  obtain ⟨hgreatest, hle, -⟩ := count_isGreatest hterm "a a a a, a ab".toList
  have hwords := hgreatest .wholeWords
  rw [hcount] at hwords hle
  exact ⟨hterm, hwords, hle⟩

end TermSearch.Text
