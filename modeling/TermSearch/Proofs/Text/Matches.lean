import TermSearch.Comparison.Checks
import TermSearch.Proofs.Text.Packing
import TermSearch.Proofs.Text.Pattern

/-!
# Matches of Whole Words

Which occurrences of a term are matched as whole words. The matches are occurrences, they stand one
behind the other, and an occurrence that is not matched begins inside of a match that begins before
it. The empty term is matched wherever no word character stands on either side.

## Main definitions

- `Text.IsWordSpan`: a term stands in a span of a text as whole words.

## Main statements

- `Text.mem_matchStarts_or_exists_covering`: no occurrence is left out but for an earlier match.
- `Text.mem_matchStarts_nil_iff`: the matches of the empty term.
- `Text.wordPattern_matches_from_left_to_right`: the matches of the pattern of a term.
-/

namespace TermSearch.Text

variable {placement : Placement} {term text : List Char}

/-! ## Spans of whole words -/

/-- The term is what the span cuts out of the text, and no word character stands directly before or
after it. -/
structure IsWordSpan (term text : List Char) (span : Nat × Nat) : Prop where
  stop_eq : span.2 = span.1 + term.length
  stop_le : span.2 ≤ text.length
  slice : (text.take span.2).drop span.1 = term
  before : isWordAt (text.take span.1).getLast? = false
  after : isWordAt (text.drop span.2).head? = false

theorem allows_wholeWords_iff {before after : Option Char} :
    Placement.wholeWords.allows before after = true ↔
      isWordAt before = false ∧ isWordAt after = false := by
  simp [Placement.allows]

/-- The spans of whole words are those of the places where the term occurs. -/
theorem isWordSpan_iff {span : Nat × Nat} :
    IsWordSpan term text span ↔
      OccursAt .wholeWords term text span.1 ∧ span.2 = span.1 + term.length := by
  obtain ⟨start, stop⟩ := span
  constructor
  · rintro ⟨hstop, hle, hslice, hbefore, hafter⟩
    have hstart : (text.take stop).take start = text.take start := by
      rw [List.take_take, Nat.min_eq_left (by omega)]
    have htext : text = text.take start ++ term ++ text.drop stop := by
      rw [← hstart, ← hslice, List.take_append_drop, List.take_append_drop]
    refine ⟨⟨text.take start, text.drop stop, htext, ?_, ?_⟩, hstop⟩
    · rw [List.length_take]
      omega
    · exact allows_wholeWords_iff.mpr ⟨hbefore, hafter⟩
  · rintro ⟨⟨before, after, rfl, rfl, hallows⟩, hstop⟩
    obtain rfl : stop = before.length + term.length := hstop
    obtain ⟨hbefore, hafter⟩ := allows_wholeWords_iff.mp hallows
    have hstop : before.length + term.length = (before ++ term).length := by simp
    refine ⟨rfl, ?_, ?_, ?_, ?_⟩
    · simp
    · rw [hstop, List.take_left, List.drop_left]
    · rw [List.append_assoc, List.take_left]
      exact hbefore
    · rw [hstop, List.drop_left]
      exact hafter

/-- The term stands in some span as whole words if it occurs at all. -/
theorem exists_isWordSpan_iff :
    (∃ span, IsWordSpan term text span) ↔ Occurs .wholeWords term text := by
  constructor
  · rintro ⟨span, hspan⟩
    obtain ⟨⟨before, after, htext, -, hallows⟩, -⟩ := isWordSpan_iff.mp hspan
    exact ⟨before, after, htext, hallows⟩
  · rintro ⟨before, after, htext, hallows⟩
    exact ⟨(before.length, before.length + term.length),
      isWordSpan_iff.mpr ⟨⟨before, after, htext, rfl, hallows⟩, rfl⟩⟩

/-! ## Occurrences that are not taken -/

/-- From a place on, with some characters to skip, an occurrence behind these characters is taken,
or begins inside of one that is taken. -/
private theorem mem_or_exists_covering_from (h : term ≠ []) {passed rest : List Char}
    {skip start : Nat}
    (hoccurs : OccursAt placement term (passed ++ rest) start)
    (hfrom : passed.length + skip ≤ start) :
    start ∈ matchStartsFrom placement term passed.getLast? passed.length skip rest ∨
      ∃ first ∈ matchStartsFrom placement term passed.getLast? passed.length skip rest,
        first < start ∧ start < first + term.length := by
  have hlength : 0 < term.length := List.length_pos_iff.mpr h
  -- along the text, with one more character passed at every step
  induction rest generalizing passed skip with
  | nil =>
    have hend := hoccurs.add_length_le
    rw [List.append_nil] at hend
    omega
  | cons c rest ih =>
    have hstep : ∀ skip, _ := fun skip => @ih (passed ++ [c]) skip
    simp only [List.getLast?_append, List.getLast?_singleton, Option.some_or,
      List.length_append, List.length_singleton, List.append_assoc, List.singleton_append]
      at hstep
    cases skip with
    | succ skip =>
      rw [matchStartsFrom]
      exact hstep skip hoccurs (by omega)
    | zero =>
      rw [matchStartsFrom]
      split
      · -- an occurrence is taken here; the other one begins here, inside of it or behind its end
        by_cases hhere : start = passed.length
        · exact .inl (List.mem_cons.mpr (.inl hhere))
        by_cases hinside : start < passed.length + term.length
        · exact .inr ⟨passed.length, List.mem_cons_self, by omega, hinside⟩
        rcases hstep (term.length - 1) hoccurs (by omega) with hmem | ⟨first, hmem, hcovers⟩
        · exact .inl (List.mem_cons_of_mem _ hmem)
        · exact .inr ⟨first, List.mem_cons_of_mem _ hmem, hcovers⟩
      · -- no occurrence begins here
        next hhere =>
        have hne : start ≠ passed.length := by
          rintro rfl
          exact hhere (occursAt_length_iff.mp hoccurs)
        exact hstep 0 hoccurs (by omega)

/-- An occurrence of a term that is not empty is taken, or begins inside of one that is taken. -/
theorem mem_matchStarts_or_exists_covering (h : term ≠ []) {start : Nat}
    (hoccurs : OccursAt placement term text start) :
    start ∈ matchStarts placement term text ∨
      ∃ first ∈ matchStarts placement term text, first < start ∧ start < first + term.length :=
  @mem_or_exists_covering_from placement term h [] text 0 start hoccurs (by simp)

/-! ## The empty term -/

/-- From a place on, the empty term is taken once at each place where it occurs. -/
private theorem matchStartsFrom_nil_spec {passed rest : List Char} :
    (∀ start, start ∈ matchStartsFrom placement [] passed.getLast? passed.length 0 rest ↔
      OccursAt placement [] (passed ++ rest) start ∧ passed.length ≤ start) ∧
    (matchStartsFrom placement [] passed.getLast? passed.length 0 rest).Pairwise (· < ·) := by
  induction rest generalizing passed with
  | nil =>
    -- only the end of the text is left
    have hend : ∀ start, OccursAt placement [] (passed ++ []) start ∧ passed.length ≤ start ↔
        start = passed.length ∧ occursHere placement [] passed.getLast? [] = true := by
      intro start
      rw [← occursAt_length_iff]
      constructor
      · rintro ⟨hoccurs, hle⟩
        have hle' := hoccurs.add_length_le
        obtain rfl : start = passed.length := by simp at hle'; omega
        exact ⟨rfl, hoccurs⟩
      · rintro ⟨rfl, hoccurs⟩
        exact ⟨hoccurs, Nat.le_refl _⟩
    rw [matchStartsFrom]
    split <;> simp_all
  | cons c rest ih =>
    obtain ⟨hmem, hsorted⟩ := @ih (passed ++ [c])
    simp only [List.getLast?_append, List.getLast?_singleton, Option.some_or,
      List.length_append, List.length_singleton, List.append_assoc, List.singleton_append]
      at hmem hsorted
    -- an occurrence from here on is one at this place, or one behind it
    have hsplit : ∀ start,
        OccursAt placement [] (passed ++ c :: rest) start ∧ passed.length ≤ start ↔
        (start = passed.length ∧ occursHere placement [] passed.getLast? (c :: rest) = true) ∨
          OccursAt placement [] (passed ++ c :: rest) start ∧ passed.length + 1 ≤ start := by
      intro start
      rw [← occursAt_length_iff]
      constructor
      · rintro ⟨hoccurs, hle⟩
        rcases Nat.eq_or_lt_of_le hle with rfl | hlt
        · exact .inl ⟨rfl, hoccurs⟩
        · exact .inr ⟨hoccurs, hlt⟩
      · rintro (⟨rfl, hoccurs⟩ | ⟨hoccurs, hlt⟩)
        · exact ⟨hoccurs, Nat.le_refl _⟩
        · exact ⟨hoccurs, by omega⟩
    rw [matchStartsFrom]
    cases hhere : occursHere placement [] passed.getLast? (c :: rest) with
    | true =>
      refine ⟨fun start => ?_, List.pairwise_cons.mpr ⟨fun later hlater => ?_, hsorted⟩⟩
      · rw [hsplit, ← hmem, hhere]
        simp
      · exact ((hmem later).mp hlater).2
    | false =>
      refine ⟨fun start => ?_, hsorted⟩
      rw [hsplit, ← hmem, hhere]
      simp

/-- The empty term is taken at each place where it occurs. -/
theorem mem_matchStarts_nil_iff {start : Nat} :
    start ∈ matchStarts placement [] text ↔ OccursAt placement [] text start := by
  have hmem := (@matchStartsFrom_nil_spec placement [] text).1 start
  simpa [matchStarts] using hmem

/-- The empty term is taken once at each place. -/
theorem matchStarts_nil_sorted (text : List Char) :
    (matchStarts placement [] text).Pairwise (· < ·) :=
  (@matchStartsFrom_nil_spec placement [] text).2

/-! ## Matches -/

theorem mem_matchSpans_iff {span : Nat × Nat} :
    span ∈ matchSpans placement term text ↔
      span.1 ∈ matchStarts placement term text ∧ span.2 = span.1 + term.length := by
  obtain ⟨start, stop⟩ := span
  simp [matchSpans, eq_comm]

/-- The matches of a term that is not empty stand one behind the other, each of them as whole words,
and whole words that are not matched begin inside of a match before them. -/
theorem matchSpans_spec (h : term ≠ []) (text : List Char) :
    (∀ span ∈ matchSpans .wholeWords term text, IsWordSpan term text span) ∧
    (matchSpans .wholeWords term text).Pairwise (fun first second => first.2 ≤ second.1) ∧
    ∀ span, IsWordSpan term text span → span ∉ matchSpans .wholeWords term text →
      ∃ first ∈ matchSpans .wholeWords term text, first.1 < span.1 ∧ span.1 < first.2 := by
  obtain ⟨hoccurs, hapart⟩ := @matchStartsFrom_spec .wholeWords term h [] text 0
  refine ⟨fun span hspan => ?_, List.pairwise_map.mpr hapart, fun span hspan hnot => ?_⟩
  · obtain ⟨hmem, hstop⟩ := mem_matchSpans_iff.mp hspan
    exact isWordSpan_iff.mpr ⟨(hoccurs _ hmem).1, hstop⟩
  · obtain ⟨hword, hstop⟩ := isWordSpan_iff.mp hspan
    rcases mem_matchStarts_or_exists_covering h hword with hmem | ⟨first, hmem, hcovers⟩
    · exact absurd (mem_matchSpans_iff.mpr ⟨hmem, hstop⟩) hnot
    · exact ⟨(first, first + term.length), mem_matchSpans_iff.mpr ⟨hmem, rfl⟩, hcovers⟩

/-- The matches of the empty term are the empty spans without word characters on either side. -/
theorem matchSpans_nil_spec (text : List Char) :
    (∀ span, span ∈ matchSpans .wholeWords [] text ↔ IsWordSpan [] text span) ∧
    (matchSpans .wholeWords [] text).Pairwise fun first second => first.1 < second.1 := by
  refine ⟨fun span => ?_, List.pairwise_map.mpr (matchStarts_nil_sorted text)⟩
  rw [mem_matchSpans_iff, isWordSpan_iff, mem_matchStarts_nil_iff]

/-- A text contains a term as whole words if the term is matched in it. -/
theorem occurs_iff_matchSpans_ne_nil :
    occurs placement term text = true ↔ matchSpans placement term text ≠ [] := by
  rw [matchSpans, Ne, List.map_eq_nil_iff, ← Ne, matchStarts_ne_nil_iff]

/-- The pattern of a term is matched from left to right. If the term is not empty, its matches stand
one behind the other, each of them cuts the term itself out of the text with no word character
directly before or after it, and whole words that are not matched begin inside of a match before
them; the count is the number of matches. The empty term is matched once at every place with no word
character on either side. Between normal forms, containment as whole words means that there is a
match, and that the term stands somewhere as whole words. -/
theorem wordPattern_matches_from_left_to_right (term text : String) :
    ∃ spans, patternSpans (wordPattern term) text = some spans ∧
      (term.toList ≠ [] →
        (∀ span ∈ spans, IsWordSpan term.toList text.toList span) ∧
        spans.Pairwise (fun first second => first.2 ≤ second.1) ∧
        (∀ span, IsWordSpan term.toList text.toList span → span ∉ spans →
          ∃ first ∈ spans, first.1 < span.1 ∧ span.1 < first.2) ∧
        count .wholeWords term.toList text.toList = spans.length) ∧
      (term.toList = [] →
        (∀ span, span ∈ spans ↔ IsWordSpan [] text.toList span) ∧
        spans.Pairwise fun first second => first.1 < second.1) ∧
      ∀ (c : Comparison) (value word : String), text = c.normalize value →
        term = c.normalize word →
        (c.contains .wholeWords (some value) word = true ↔ spans ≠ []) ∧
        (c.contains .wholeWords (some value) word = true ↔
          ∃ span, IsWordSpan term.toList text.toList span) := by
  refine ⟨_, patternSpans_wordPattern term text, fun hterm => ?_, fun hterm => ?_, ?_⟩
  · obtain ⟨hwords, hapart, hcovered⟩ := matchSpans_spec hterm text.toList
    refine ⟨hwords, hapart, hcovered, ?_⟩
    rw [count_eq_length hterm, matchSpans, List.length_map]
  · rw [hterm]
    exact matchSpans_nil_spec text.toList
  · rintro c value word rfl rfl
    have hcontains : c.contains .wholeWords (some value) word =
        occurs .wholeWords (c.normalize word).toList (c.normalize value).toList := by
      simp [Comparison.contains, Comparison.normalize]
    rw [hcontains, exists_isWordSpan_iff]
    exact ⟨occurs_iff_matchSpans_ne_nil, occurs_eq_true_iff⟩

end TermSearch.Text
