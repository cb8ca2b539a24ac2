import Mathlib.Data.List.TakeWhile
import TermSearch.Proofs.Text.Matches

/-!
# Runs of Word Characters

A term that is made of word characters only occurs as whole words where it is a whole run of them:
one that is bounded on either side by another character or by an end of the text. Such runs do not
overlap, and so all of them are matched. A text falls into its runs by being split at all characters
that words are not made of.

## Main definitions

- `Text.IsRun`: the span of a run in a text.
- `Text.wordRuns`: the runs that a text is split into.

## Main statements

- `Text.mem_matchSpans_iff_isRun`: a term made of word characters is matched at the runs equal
  to it.
- `Text.count_wholeWords_eq_count_wordRuns`: it is counted as often as it is a run.
- `Text.wordPattern_matches_runs`: both, said of the pattern of the term.
-/

namespace TermSearch.Text

open Unicode (isWordCharacter)

variable {term text : List Char}

/-! ## Spans of runs -/

/-- The characters that a span cuts out of a text. -/
def cutOut (text : List Char) (span : Nat × Nat) : List Char :=
  (text.take span.2).drop span.1

/-- Word characters only stand in the span, at least one of them, and no other word character stands
directly before or after it. -/
structure IsRun (text : List Char) (span : Nat × Nat) : Prop where
  start_lt : span.1 < span.2
  stop_le : span.2 ≤ text.length
  word : ∀ c ∈ cutOut text span, isWordCharacter c = true
  before : isWordAt (text.take span.1).getLast? = false
  after : isWordAt (text.drop span.2).head? = false

/-- A term made of word characters stands as whole words where it is a run. -/
theorem isWordSpan_iff_isRun (hterm : term ≠ []) (hword : ∀ c ∈ term, isWordCharacter c = true)
    {span : Nat × Nat} : IsWordSpan term text span ↔ IsRun text span ∧ cutOut text span = term := by
  have hlength : 0 < term.length := List.length_pos_iff.mpr hterm
  constructor
  · rintro ⟨hstop, hle, hslice, hbefore, hafter⟩
    refine ⟨⟨by omega, hle, ?_, hbefore, hafter⟩, hslice⟩
    rwa [cutOut, hslice]
  · rintro ⟨⟨hlt, hle, -, hbefore, hafter⟩, hslice⟩
    refine ⟨?_, hle, hslice, hbefore, hafter⟩
    have hcut := congrArg List.length hslice
    rw [cutOut, List.length_drop, List.length_take] at hcut
    omega

/-- No run begins inside of another one. -/
theorem IsRun.not_inside {first span : Nat × Nat} (hfirst : IsRun text first)
    (hspan : IsRun text span) (hlt : first.1 < span.1) : ¬ span.1 < first.2 := by
  intro hinside
  -- the character in front of the second run belongs to the first one
  have hle := hfirst.stop_le
  have hindex : span.1 - 1 < text.length := by omega
  have hmem : text[span.1 - 1] ∈ cutOut text first := by
    rw [cutOut, List.mem_drop_iff_getElem]
    refine ⟨span.1 - 1 - first.1, by rw [List.length_take]; omega, ?_⟩
    rw [List.getElem_take]
    congr 1
    omega
  have hlast : (text.take span.1).getLast? = some text[span.1 - 1] := by
    rw [List.getLast?_take, if_neg (by omega), List.getElem?_eq_getElem hindex, Option.some_or]
  have hbefore := hspan.before
  rw [hlast, isWordAt, hfirst.word _ hmem] at hbefore
  exact Bool.noConfusion hbefore

/-- A term made of word characters is matched at the runs that are equal to it. -/
theorem mem_matchSpans_iff_isRun (hterm : term ≠ []) (hword : ∀ c ∈ term, isWordCharacter c = true)
    {span : Nat × Nat} :
    span ∈ matchSpans .wholeWords term text ↔ IsRun text span ∧ cutOut text span = term := by
  obtain ⟨hwords, -, hcovered⟩ := matchSpans_spec hterm text
  rw [← isWordSpan_iff_isRun hterm hword]
  constructor
  · exact hwords span
  · intro hspan
    by_contra hnot
    -- a run that is left out would begin inside of one that is matched
    obtain ⟨first, hmem, hlt, hinside⟩ := hcovered span hspan hnot
    obtain ⟨hrun, -⟩ := (isWordSpan_iff_isRun hterm hword).mp (hwords first hmem)
    obtain ⟨hrun', -⟩ := (isWordSpan_iff_isRun hterm hword).mp hspan
    exact hrun.not_inside hrun' hlt hinside

/-- No span is matched twice. -/
theorem matchSpans_nodup (h : term ≠ []) (text : List Char) :
    (matchSpans .wholeWords term text).Nodup := by
  rw [matchSpans]
  exact (matchStarts_nodup h text).map fun i j hij => congrArg Prod.fst hij

/-! ## Splitting into runs -/

/-- The runs of word characters of a text, from left to right: the pieces that are left between the
characters that words are not made of. -/
def wordRuns (text : List Char) : List (List Char) :=
  (text.splitOnP fun c => !isWordCharacter c).filter fun run => !run.isEmpty

@[simp] theorem wordRuns_nil : wordRuns [] = [] := rfl

/-- A character that words are not made of belongs to no run. -/
theorem wordRuns_cons_of_not_word {c : Char} (h : isWordCharacter c = false) (rest : List Char) :
    wordRuns (c :: rest) = wordRuns rest := by
  simp [wordRuns, List.splitOnP_cons_eq_if_modifyHead, h]

/-- A word character belongs to the first run, together with the word characters that follow it. -/
theorem wordRuns_cons_of_word {c : Char} (h : isWordCharacter c = true) (rest : List Char) :
    wordRuns (c :: rest) =
      (c :: rest.takeWhile isWordCharacter) :: wordRuns (rest.dropWhile isWordCharacter) := by
  have hrun : ∀ d ∈ c :: rest.takeWhile isWordCharacter, (!isWordCharacter d) = false := by
    intro d hd
    rcases List.mem_cons.mp hd with rfl | hd
    · simp [h]
    · simp [List.mem_takeWhile_imp hd]
  have htext : c :: rest =
      (c :: rest.takeWhile isWordCharacter) ++ rest.dropWhile isWordCharacter := by
    rw [List.cons_append, List.takeWhile_append_dropWhile]
  have hend := List.head?_dropWhile_not isWordCharacter rest
  rw [htext]
  cases hback : rest.dropWhile isWordCharacter with
  | nil =>
    rw [List.append_nil, wordRuns, List.splitOnP_eq_singleton hrun]
    rfl
  | cons d back =>
    -- the run ends at a character that words are not made of
    rw [hback] at hend
    have hd : isWordCharacter d = false := by simpa using hend
    rw [wordRuns_cons_of_not_word hd, wordRuns,
      List.splitOnP_append_cons_of_forall_mem hrun d (by simp [hd])]
    rfl

/-! ## Counting runs -/

/-- Behind a character that words are not made of, or at the beginning, a term made of word
characters occurs as whole words if it is the run that begins there. -/
theorem occursHere_iff_eq_takeWhile (hword : ∀ c ∈ term, isWordCharacter c = true)
    {before : Option Char} {rest : List Char} (hbefore : isWordAt before = false) :
    occursHere .wholeWords term before rest = true ↔ term = rest.takeWhile isWordCharacter := by
  rw [occursHere_eq_true_iff]
  constructor
  · rintro ⟨after, rfl, hallows⟩
    have hafter := (allows_wholeWords_iff.mp hallows).2
    rw [List.takeWhile_append_of_pos hword]
    cases after with
    | nil => simp
    | cons d after => simp [show isWordCharacter d = false from hafter]
  · intro h
    refine ⟨rest.dropWhile isWordCharacter, ?_, allows_wholeWords_iff.mpr ⟨hbefore, ?_⟩⟩
    · conv_lhs => rw [← @List.takeWhile_append_dropWhile _ isWordCharacter rest, ← h]
    · have hend := List.head?_dropWhile_not isWordCharacter rest
      cases hback : (rest.dropWhile isWordCharacter).head? with
      | none => rfl
      | some d =>
        rw [hback] at hend
        exact hend

/-- From a place on, a term made of word characters is taken as often as it is a run. Inside of
a run nothing is taken up to its end, and a run that is taken is skipped as a whole. -/
private theorem length_matchStartsFrom_eq_count (hterm : term ≠ [])
    (hword : ∀ c ∈ term, isWordCharacter c = true) (rest : List Char) :
    (∀ before position, isWordAt before = false →
      (matchStartsFrom .wholeWords term before position 0 rest).length =
        (wordRuns rest).count term) ∧
    ∀ before position skip, isWordAt before = true →
      skip ≤ (rest.takeWhile isWordCharacter).length →
      (matchStartsFrom .wholeWords term before position skip rest).length =
        (wordRuns (rest.dropWhile isWordCharacter)).count term := by
  have hinside : ∀ before rest, isWordAt before = true →
      occursHere .wholeWords term before rest = false := by
    intro before rest hbefore
    simp [occursHere, Placement.allows, hbefore]
  -- both at once, since the scan passes from a gap into a run and out of it again
  induction rest with
  | nil =>
    have hend : ∀ before, occursHere .wholeWords term before [] = false := by
      intro before
      simp [occursHere, hterm]
    simp [matchStartsFrom, hend]
  | cons c rest ih =>
    obtain ⟨ihGap, ihRun⟩ := ih
    cases hc : isWordCharacter c with
    | false =>
      -- at a gap between runs, the run in front of it has ended
      have hgap : ∀ before position,
          (matchStartsFrom .wholeWords term before position 0 (c :: rest)).length =
            (wordRuns (c :: rest)).count term := by
        intro before position
        have hhere : occursHere .wholeWords term before (c :: rest) = false := by
          cases hbefore : isWordAt before with
          | true => exact hinside before _ hbefore
          | false =>
            rw [Bool.eq_false_iff, Ne, occursHere_iff_eq_takeWhile hword hbefore]
            simpa [hc] using hterm
        rw [matchStartsFrom, hhere, wordRuns_cons_of_not_word hc]
        exact ihGap (some c) (position + 1) hc
      refine ⟨fun before position _ => hgap before position, fun before position skip _ hskip => ?_⟩
      obtain rfl : skip = 0 := by simpa [hc] using hskip
      rw [List.dropWhile_cons_of_neg (by simp [hc])]
      exact hgap before position
    | true =>
      refine ⟨fun before position hbefore => ?_, fun before position skip hbefore hskip => ?_⟩
      · -- a run begins, which is the term or not
        have hhere := @occursHere_iff_eq_takeWhile term hword before (c :: rest) hbefore
        rw [List.takeWhile_cons_of_pos hc] at hhere
        rw [matchStartsFrom, wordRuns_cons_of_word hc, List.count_cons]
        split
        · next h =>
          have hrun := hhere.mp h
          have hskip : term.length - 1 = (rest.takeWhile isWordCharacter).length := by simp [hrun]
          rw [List.length_cons, ihRun (some c) _ _ hc hskip.le, ← hrun]
          simp
        · next h =>
          have hrun : ¬ c :: rest.takeWhile isWordCharacter = term :=
            fun heq => h (hhere.mpr heq.symm)
          rw [ihRun (some c) _ 0 hc (Nat.zero_le _)]
          simp [hrun]
      · -- a run goes on
        rw [List.dropWhile_cons_of_pos hc]
        cases skip with
        | zero =>
          rw [matchStartsFrom, hinside before _ hbefore]
          exact ihRun (some c) _ 0 hc (Nat.zero_le _)
        | succ skip =>
          rw [matchStartsFrom]
          rw [List.takeWhile_cons_of_pos hc, List.length_cons] at hskip
          exact ihRun (some c) _ skip hc (by omega)

/-- A term made of word characters is counted as whole words as often as it is a run. -/
theorem count_wholeWords_eq_count_wordRuns (hterm : term ≠ [])
    (hword : ∀ c ∈ term, isWordCharacter c = true) (text : List Char) :
    count .wholeWords term text = (wordRuns text).count term := by
  rw [count_eq_length hterm]
  exact (length_matchStartsFrom_eq_count hterm hword text).1 none 0 rfl

/-- The pattern of a term made of word characters matches at the runs of word characters that
are equal to the term, each of them once and nowhere else. So the term is counted as often as it
is among the runs that the text is split into, and it is matched at all if it is one of them. -/
theorem wordPattern_matches_runs {term : String} (hterm : term.toList ≠ [])
    (hword : ∀ c ∈ term.toList, isWordCharacter c = true) (text : String) :
    ∃ spans, patternSpans (wordPattern term) text = some spans ∧ spans.Nodup ∧
      (∀ span, span ∈ spans ↔ IsRun text.toList span ∧ cutOut text.toList span = term.toList) ∧
      count .wholeWords term.toList text.toList = spans.length ∧
      count .wholeWords term.toList text.toList = (wordRuns text.toList).count term.toList ∧
      (spans ≠ [] ↔ term.toList ∈ wordRuns text.toList) := by
  have hlength : count .wholeWords term.toList text.toList =
      (matchSpans .wholeWords term.toList text.toList).length := by
    rw [count_eq_length hterm, matchSpans, List.length_map]
  have hcount := count_wholeWords_eq_count_wordRuns hterm hword text.toList
  refine ⟨_, patternSpans_wordPattern term text, matchSpans_nodup hterm text.toList,
    fun span => mem_matchSpans_iff_isRun hterm hword, hlength, hcount, ?_⟩
  rw [← List.length_pos_iff, ← hlength, hcount, List.count_pos_iff]

/-- A word among longer ones that it is a part of, and at both ends of the text. -/
theorem wordPattern_matches_runs_at_ends :
    "an".toList ≠ [] ∧ (∀ c ∈ "an".toList, isWordCharacter c = true) ∧
      count .wholeWords "an".toList "an ant, a-an; ban an".toList = 3 ∧
      wordRuns "an ant, a-an; ban an".toList =
        ["an".toList, "ant".toList, "a".toList, "an".toList, "ban".toList, "an".toList] := by
  have hterm : "an".toList ≠ [] := by decide
  have hword : ∀ c ∈ "an".toList, isWordCharacter c = true :=
    List.all_eq_true.mp (by decide +kernel)
  have hruns : wordRuns "an ant, a-an; ban an".toList =
      ["an".toList, "ant".toList, "a".toList, "an".toList, "ban".toList, "an".toList] := by
    decide +kernel
  obtain ⟨spans, -, -, -, -, hcount, -⟩ :=
    wordPattern_matches_runs hterm hword "an ant, a-an; ban an"
  rw [hruns] at hcount
  exact ⟨hterm, hword, hcount.trans (by decide), hruns⟩

end TermSearch.Text
