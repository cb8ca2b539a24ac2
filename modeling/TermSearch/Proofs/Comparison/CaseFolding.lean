import Mathlib.Data.List.Basic
import TermSearch.Comparison.Checks
import TermSearch.Proofs.Text.Occurrence
import TermSearch.Proofs.Unicode.WordEdges
import TermSearch.Text.Blank

/-!
# Matches under Case Folding

What becomes of a match where case is ignored. Case folding replaces each character on its own, but
the text is composed once more afterwards, and composition regards neighbours: an `H` with a line
below stays two characters, whereas an `h` with a line below becomes one. So a match may be lost if
it begins or ends at a mark that composes with what is in front of it. Whether it does is decided by
the clusters at the edge, and all other matches are kept.

A match of whole words may be lost besides, if a neighbour becomes a word character.

## Main definitions

- `Unicode.EdgeKept`: a text is folded at an edge as its two sides are.
- `Comparison.MatchAt`: a term matches between two parts of the normal form of a value.
- `Comparison.FoldingKeeps`: the edges of a match are kept, and no neighbour becomes a word.

## Main statements

- `Unicode.edgeKept_iff`: an edge is kept if and only if its two sides are folded apart.
- `Comparison.ignoringCase_loses_match`: matches that are lost.
- `Comparison.ignoringCase_keeps_match`: all others are kept.
-/

namespace TermSearch

namespace Unicode

open Text (isWordAt)

/-! ## Folding at an edge -/

/-- A composed text with its case folded, composed once more. -/
def foldText (text : List Char) : List Char :=
  compose (text.flatMap foldCase)

theorem foldText_eq_nil_iff {text : List Char} : foldText text = [] ↔ text = [] := by
  rw [foldText, compose_eq_nil_iff, flatMap_eq_nil_iff_of_ne_nil foldCase_ne_nil]

/-- Whether a character, its case folded, may compose or change places with what is in front. -/
def attaches (c : Char) : Bool :=
  !beginsApart (foldCase c)

/-- A text is folded up to a character that does not attach, and from there on. -/
theorem foldText_append {back : List Char} (h : ∀ c ∈ back.head?, attaches c = false)
    (front : List Char) : foldText (front ++ back) = foldText front ++ foldText back := by
  rw [foldText, foldText, foldText, List.flatMap_append]
  refine compose_append ?_ _
  cases back with
  | nil => rfl
  | cons c rest =>
    -- whether the rest begins apart is decided by its first character
    rw [List.flatMap_cons, beginsApart_append (foldCase_ne_nil c)]
    simpa [attaches] using h c rfl

/-- The end of a text from the last character on that does not attach; where all of them attach, the
whole text. -/
def lastCluster : List Char → List Char
  | [] => []
  | c :: rest => if rest.all attaches then c :: rest else lastCluster rest

/-- Where not all characters attach, the last cluster begins with one that does not. -/
theorem exists_lastCluster_eq_cons {text : List Char} (h : text.all attaches = false) :
    ∃ c rest, lastCluster text = c :: rest ∧ attaches c = false := by
  induction text with
  | nil => simp at h
  | cons c rest ih =>
    rw [lastCluster]
    split
    · next hall => exact ⟨c, rest, rfl, by simpa [hall] using h⟩
    · next hall => exact ih (Bool.eq_false_iff.mpr hall)

/-- What is in front of the last cluster ends at a character that does not attach, if there is
anything. -/
theorem exists_append_lastCluster (text : List Char) :
    ∃ front, text = front ++ lastCluster text ∧
      (front = [] ∨ ∃ c rest, lastCluster text = c :: rest ∧ attaches c = false) := by
  induction text with
  | nil => exact ⟨[], rfl, .inl rfl⟩
  | cons c rest ih =>
    rw [lastCluster]
    split
    · exact ⟨[], rfl, .inl rfl⟩
    · -- the cluster is one of the rest, which has a character that does not attach
      next hall =>
      obtain ⟨front, hrest, -⟩ := ih
      refine ⟨c :: front, congrArg (c :: ·) hrest, .inr ?_⟩
      exact exists_lastCluster_eq_cons (Bool.eq_false_iff.mpr hall)

theorem lastCluster_ne_nil {text : List Char} (h : text ≠ []) : lastCluster text ≠ [] := by
  obtain ⟨front, htext, rfl | ⟨c, rest, hcluster, -⟩⟩ := exists_append_lastCluster text
  · rwa [← List.nil_append (lastCluster text), ← htext]
  · simp [hcluster]

/-- A text is folded up to its last cluster, and from there on, whatever follows. -/
theorem exists_foldText_lastCluster (text : List Char) :
    ∃ front, ∀ back,
      foldText (text ++ back) = foldText front ++ foldText (lastCluster text ++ back) := by
  obtain ⟨front, htext, hfront⟩ := exists_append_lastCluster text
  refine ⟨front, fun back => ?_⟩
  have hsplit : text ++ back = front ++ (lastCluster text ++ back) := by
    rw [← List.append_assoc, ← htext]
  rw [hsplit]
  rcases hfront with rfl | ⟨c, rest, hcluster, hc⟩
  · rfl
  · rw [hcluster]
    exact foldText_append (by simpa using hc) front

/-- The edge between two texts is kept if the last cluster of the one in front is folded apart from
the characters at the front of the other that attach to it. -/
def EdgeKept (front back : List Char) : Prop :=
  foldText (lastCluster front ++ back.takeWhile attaches) =
    foldText (lastCluster front) ++ foldText (back.takeWhile attaches)

instance (front back : List Char) : Decidable (EdgeKept front back) :=
  inferInstanceAs (Decidable (_ = _))

/-- An edge is kept if and only if the texts on its two sides are folded apart. -/
theorem edgeKept_iff {front back : List Char} :
    EdgeKept front back ↔ foldText (front ++ back) = foldText front ++ foldText back := by
  obtain ⟨start, hstart⟩ := exists_foldText_lastCluster front
  -- the characters behind the ones that attach begin apart
  have hrest : ∀ text, foldText (text ++ back) =
      foldText (text ++ back.takeWhile attaches) ++ foldText (back.dropWhile attaches) := by
    intro text
    have happend : text ++ back =
        (text ++ back.takeWhile attaches) ++ back.dropWhile attaches := by
      rw [List.append_assoc, List.takeWhile_append_dropWhile]
    rw [happend]
    refine foldText_append (fun c hc => ?_) _
    have hnot := List.head?_dropWhile_not attaches back
    rw [hc] at hnot
    exact hnot
  have hfront : foldText front = foldText start ++ foldText (lastCluster front) := by
    simpa using hstart []
  have hback : foldText back =
      foldText (back.takeWhile attaches) ++ foldText (back.dropWhile attaches) := hrest []
  rw [hrest front, hstart, hfront, hback, EdgeKept]
  -- what is folded in front of the cluster and behind the attached characters is the same
  simp only [← List.append_assoc, List.append_cancel_right_eq]
  simp only [List.append_assoc, List.append_cancel_left_eq]

/-- An edge in front of a character that does not attach is kept. -/
theorem edgeKept_of_not_attaches {back : List Char} (h : ∀ c ∈ back.head?, attaches c = false)
    (front : List Char) : EdgeKept front back :=
  edgeKept_iff.mpr (foldText_append h front)

/-! ## Neighbours that stay apart from words -/

theorem isWordAt_getLast_of_forall {text : List Char} (h : ∀ c ∈ text, isWordCharacter c = false) :
    isWordAt text.getLast? = false := by
  cases hlast : text.getLast? with
  | none => rfl
  | some c => exact h c (List.mem_of_getLast? hlast)

/-- A text ends in no word character if its last character is spelled by none. -/
theorem isWordAt_getLast_flatMap {spell : Char → List Char} (hspell : ∀ c, spell c ≠ [])
    {text : List Char} (h : ∀ c ∈ text.getLast?, ∀ d ∈ spell c, isWordCharacter d = false) :
    isWordAt (text.flatMap spell).getLast? = false := by
  rcases List.eq_nil_or_concat text with rfl | ⟨front, c, htext⟩
  · rfl
  · obtain rfl : text = front ++ [c] := htext.trans List.concat_eq_append
    rw [List.flatMap_append, List.flatMap_singleton, List.getLast?_append_of_ne_nil _ (hspell c)]
    exact isWordAt_getLast_of_forall (h c (by simp))

/-- A text begins with no word character if its first character is spelled by none. -/
theorem isWordAt_head_flatMap {spell : Char → List Char} (hspell : ∀ c, spell c ≠ [])
    {text : List Char} (h : ∀ c ∈ text.head?, ∀ d ∈ spell c, isWordCharacter d = false) :
    isWordAt (text.flatMap spell).head? = false := by
  cases text with
  | nil => rfl
  | cons c rest =>
    rw [List.flatMap_cons]
    cases hc : spell c with
    | nil => exact absurd hc (hspell c)
    | cons d more => exact h c rfl d (by simp [hc])

theorem not_word_of_getLast {text : List Char} (h : isWordAt text.getLast? = false) :
    ∀ c ∈ text.getLast?, isWordCharacter c = false := by
  intro c hc
  rwa [Option.mem_def.mp hc] at h

theorem not_word_of_head {text : List Char} (h : isWordAt text.head? = false) :
    ∀ c ∈ text.head?, isWordCharacter c = false := by
  intro c hc
  rwa [Option.mem_def.mp hc] at h

/-- Behind a match, only the iota subscript becomes a word character. -/
theorem isWordAt_head_foldText {text : List Char} (h : isWordAt text.head? = false)
    (hiota : ∀ c ∈ text.head?, c ≠ iotaSubscript) : isWordAt (foldText text).head? = false :=
  isWordAt_head_compose (isWordAt_head_flatMap foldCase_ne_nil fun c hc =>
    not_word_of_foldCase (hiota c hc) (not_word_of_head h c hc))

/-- In front of a match, a character that does not attach becomes no word character, unless it is
the iota subscript; one that attaches does not if its cluster ends in none. -/
theorem isWordAt_getLast_foldText {text : List Char} (h : isWordAt text.getLast? = false)
    (hlast : ∀ c ∈ text.getLast?, c ≠ iotaSubscript ∧
      (attaches c = true → isWordAt (foldText (lastCluster text)).getLast? = false)) :
    isWordAt (foldText text).getLast? = false := by
  rcases List.eq_nil_or_concat text with rfl | ⟨front, c, htext⟩
  · rfl
  · obtain rfl : text = front ++ [c] := htext.trans List.concat_eq_append
    obtain ⟨hiota, hattaches⟩ := hlast c (by simp)
    cases hc : attaches c with
    | false =>
      -- the last character is folded on its own
      have hnot : isWordCharacter c = false := by simpa [isWordAt] using h
      have hfolded : ∀ d ∈ foldText [c], isWordCharacter d = false :=
        not_word_of_compose (by simpa using not_word_of_foldCase hiota hnot)
      have hne : foldText [c] ≠ [] := by simp [foldText_eq_nil_iff]
      have hhead : ∀ d ∈ [c].head?, attaches d = false := by simpa using hc
      rw [foldText_append hhead, List.getLast?_append_of_ne_nil _ hne]
      exact isWordAt_getLast_of_forall hfolded
    | true =>
      -- the last cluster is folded on its own
      obtain ⟨start, hstart⟩ := exists_foldText_lastCluster (front ++ [c])
      have hne : foldText (lastCluster (front ++ [c])) ≠ [] := fun hnil =>
        lastCluster_ne_nil (by simp) (foldText_eq_nil_iff.mp hnil)
      have happend := hstart []
      rw [List.append_nil, List.append_nil] at happend
      rw [happend, List.getLast?_append_of_ne_nil _ hne]
      exact hattaches hc

end Unicode

/-! ## Matches -/

namespace Comparison

open Text (Placement)
open Unicode

variable {placement : Placement} {value : Option String} {term : String}
  {before after : List Char}

/-- The term matches the value, between two parts of the normal form of the value that the placement
allows as neighbours. -/
def MatchAt (c : Comparison) (placement : Placement) (value : Option String) (term : String)
    (before after : List Char) : Prop :=
  ∃ text ∈ value, c.normalForm text.toList = before ++ c.normalForm term.toList ++ after ∧
    placement.allows before.getLast? after.head? = true

theorem contains_iff_exists_matchAt {c : Comparison} :
    contains c placement value term = true ↔
      ∃ before after, MatchAt c placement value term before after := by
  cases value with
  | none => simp [contains, MatchAt]
  | some text =>
    rw [contains, Text.occurs_eq_true_iff]
    simp [MatchAt, Text.Occurs]

theorem startsWith_iff_exists_matchAt {c : Comparison} :
    startsWith c value term = true ↔ ∃ after, MatchAt c .anywhere value term [] after := by
  cases value with
  | none => simp [startsWith, MatchAt]
  | some text =>
    rw [startsWith, List.isPrefixOf_iff_prefix]
    simp [MatchAt, List.IsPrefix, Placement.allows, eq_comm]

theorem endsWith_iff_exists_matchAt {c : Comparison} :
    endsWith c value term = true ↔ ∃ before, MatchAt c .anywhere value term before [] := by
  cases value with
  | none => simp [endsWith, MatchAt]
  | some text =>
    rw [endsWith, List.isSuffixOf_iff_suffix]
    simp [MatchAt, List.IsSuffix, Placement.allows, eq_comm]

/-! ## Folding a match -/

/-- Folding the case keeps a match: the text is folded apart at both edges, and neighbours of whole
words become no word characters. -/
structure FoldingKeeps (placement : Placement) (before term after : List Char) : Prop where
  front : EdgeKept before (term ++ after)
  back : EdgeKept term after
  wordBefore : placement = .wholeWords → ∀ c ∈ before.getLast?, c ≠ iotaSubscript ∧
    (attaches c = true → Text.isWordAt (foldText (lastCluster before)).getLast? = false)
  wordAfter : placement = .wholeWords → ∀ c ∈ after.head?, c ≠ iotaSubscript

namespace FoldingKeeps

variable {term : List Char}

/-- At the front of a text, only the edge behind the match matters. -/
theorem of_edge_behind (h : EdgeKept term after) : FoldingKeeps .anywhere [] term after where
  front := edgeKept_iff.mpr rfl
  back := h
  wordBefore := nofun
  wordAfter := nofun

/-- At the end of a text, only the edge in front of the match matters. -/
theorem of_edge_before (h : EdgeKept before term) : FoldingKeeps .anywhere before term [] where
  front := by rwa [List.append_nil]
  back := edgeKept_of_not_attaches (by simp) term
  wordBefore := nofun
  wordAfter := nofun

/-- The normal form of the text falls apart at the edges. -/
theorem foldText_eq (h : FoldingKeeps placement before term after) :
    foldText (before ++ term ++ after) = foldText before ++ foldText term ++ foldText after := by
  rw [List.append_assoc, edgeKept_iff.mp h.front, edgeKept_iff.mp h.back, List.append_assoc]

/-- The new neighbours are allowed where the old ones were. -/
theorem allows (h : FoldingKeeps placement before term after)
    (hallows : placement.allows before.getLast? after.head? = true) :
    placement.allows (foldText before).getLast? (foldText after).head? = true := by
  cases placement with
  | anywhere => rfl
  | wholeWords =>
    rw [Placement.allows, Bool.and_eq_true, Bool.not_eq_true', Bool.not_eq_true'] at hallows ⊢
    exact ⟨isWordAt_getLast_foldText hallows.1 (h.wordBefore rfl),
      isWordAt_head_foldText hallows.2 (h.wordAfter rfl)⟩

end FoldingKeeps

/-- Other than ordinal comparisons compose texts, and fold them then where case is ignored. -/
theorem normalForm_of_ne_ordinal {collation : Collation} (hculture : collation ≠ .ordinal)
    (text : List Char) :
    normalForm ⟨collation, false⟩ text = compose text ∧
      normalForm ⟨collation, true⟩ text = foldText (compose text) := by
  cases collation with
  | ordinal => exact absurd rfl hculture
  | currentCulture => simp [normalForm, foldText]
  | invariantCulture => simp [normalForm, foldText]

/-- A match that folding keeps is one where case is ignored. -/
theorem MatchAt.ignoringCase {collation : Collation} (hculture : collation ≠ .ordinal)
    (h : MatchAt ⟨collation, false⟩ placement value term before after)
    (hkeeps : FoldingKeeps placement before (compose term.toList) after) :
    MatchAt ⟨collation, true⟩ placement value term (foldText before) (foldText after) := by
  obtain ⟨text, hvalue, htext, hallows⟩ := h
  obtain ⟨hterm, hfoldedTerm⟩ := normalForm_of_ne_ordinal hculture term.toList
  obtain ⟨hwhole, hfoldedWhole⟩ := normalForm_of_ne_ordinal hculture text.toList
  refine ⟨text, hvalue, ?_, hkeeps.allows hallows⟩
  rw [hfoldedWhole, hfoldedTerm, ← hkeeps.foldText_eq, ← hwhole, htext, hterm]

/-- A match of whole words that the iota subscript does not stand next to is one in upper case. -/
theorem MatchAt.upperCase (h : MatchAt ⟨.ordinal, false⟩ .wholeWords value term before after)
    (hbefore : ∀ c ∈ before.getLast?, c ≠ iotaSubscript)
    (hafter : ∀ c ∈ after.head?, c ≠ iotaSubscript) :
    MatchAt ⟨.ordinal, true⟩ .wholeWords value term (before.flatMap uppercase)
      (after.flatMap uppercase) := by
  obtain ⟨text, hvalue, htext, hallows⟩ := h
  rw [Placement.allows, Bool.and_eq_true, Bool.not_eq_true', Bool.not_eq_true'] at hallows
  refine ⟨text, hvalue, ?_, ?_⟩
  · have hspelled := congrArg (List.flatMap uppercase) htext
    rw [List.flatMap_append, List.flatMap_append] at hspelled
    exact hspelled
  · rw [Placement.allows, Bool.and_eq_true, Bool.not_eq_true', Bool.not_eq_true']
    constructor
    · exact isWordAt_getLast_flatMap uppercase_ne_nil fun c hc =>
        not_word_of_uppercase (hbefore c hc) (not_word_of_getLast hallows.1 c hc)
    · exact isWordAt_head_flatMap uppercase_ne_nil fun c hc =>
        not_word_of_uppercase (hafter c hc) (not_word_of_head hallows.2 c hc)

/-- A term may be in a text, begin and end it, and may be a whole word of it, but not where case is
ignored: folding the case of an `H` with a line below leaves a single character, and in upper case
the iota subscript is a letter. -/
theorem ignoringCase_loses_match :
    Text.isBlank "H" = false ∧ Text.isBlank "\u0331" = false ∧
    (contains ⟨.currentCulture, false⟩ .anywhere (some "H\u0331") "H" = true ∧
      contains ⟨.currentCulture, true⟩ .anywhere (some "H\u0331") "H" = false) ∧
    (startsWith ⟨.currentCulture, false⟩ (some "H\u0331") "H" = true ∧
      startsWith ⟨.currentCulture, true⟩ (some "H\u0331") "H" = false) ∧
    (endsWith ⟨.invariantCulture, false⟩ (some "H\u0331") "\u0331" = true ∧
      endsWith ⟨.invariantCulture, true⟩ (some "H\u0331") "\u0331" = false) ∧
    (contains ⟨.ordinal, false⟩ .wholeWords (some "a\u0345") "a" = true ∧
      contains ⟨.ordinal, true⟩ .wholeWords (some "a\u0345") "a" = false) := by
  decide +kernel

/-- Whatever value is searched for whatever term: where case is ignored, a match is lost only if
folding does not keep any of the places at which the term matches. In upper case, whole words are
lost only where all of them stand next to an iota subscript. -/
theorem ignoringCase_keeps_match (value : Option String) (term : String) :
    (∀ collation, collation ≠ .ordinal →
      (∀ placement, contains ⟨collation, false⟩ placement value term = true →
        contains ⟨collation, true⟩ placement value term = true ∨
        ∀ before after, MatchAt ⟨collation, false⟩ placement value term before after →
          ¬ FoldingKeeps placement before (compose term.toList) after) ∧
      (startsWith ⟨collation, false⟩ value term = true →
        startsWith ⟨collation, true⟩ value term = true ∨
        ∀ after, MatchAt ⟨collation, false⟩ .anywhere value term [] after →
          ¬ EdgeKept (compose term.toList) after) ∧
      (endsWith ⟨collation, false⟩ value term = true →
        endsWith ⟨collation, true⟩ value term = true ∨
        ∀ before, MatchAt ⟨collation, false⟩ .anywhere value term before [] →
          ¬ EdgeKept before (compose term.toList))) ∧
    (contains ⟨.ordinal, false⟩ .wholeWords value term = true →
      contains ⟨.ordinal, true⟩ .wholeWords value term = true ∨
      ∀ before after, MatchAt ⟨.ordinal, false⟩ .wholeWords value term before after →
        before.getLast? = some iotaSubscript ∨ after.head? = some iotaSubscript) := by
  -- were a place kept at which the term matches, there would be a match where case is ignored
  refine ⟨fun collation hculture => ⟨fun placement _ => ?_, fun _ => ?_, fun _ => ?_⟩, fun _ => ?_⟩
  · refine or_iff_not_imp_left.mpr fun hlost before after hmatch hkeeps => hlost ?_
    exact contains_iff_exists_matchAt.mpr ⟨_, _, hmatch.ignoringCase hculture hkeeps⟩
  · refine or_iff_not_imp_left.mpr fun hlost after hmatch hedge => hlost ?_
    exact startsWith_iff_exists_matchAt.mpr
      ⟨_, hmatch.ignoringCase hculture (.of_edge_behind hedge)⟩
  · refine or_iff_not_imp_left.mpr fun hlost before hmatch hedge => hlost ?_
    exact endsWith_iff_exists_matchAt.mpr
      ⟨_, hmatch.ignoringCase hculture (.of_edge_before hedge)⟩
  · refine or_iff_not_imp_left.mpr fun hlost before after hmatch => ?_
    by_contra hneighbours
    rw [not_or] at hneighbours
    obtain ⟨hbefore, hafter⟩ := hneighbours
    refine hlost (contains_iff_exists_matchAt.mpr ⟨_, _, hmatch.upperCase ?_ ?_⟩)
    · rintro c hc rfl
      exact hbefore hc
    · rintro c hc rfl
      exact hafter hc

/-- A letter with an accent that attaches to it, but composes neither with it nor with the letter in
lower case. -/
theorem ignoringCase_keeps_match_of_acute :
    contains ⟨.currentCulture, false⟩ .wholeWords (some "N Q\u0301") "Q" = true ∧
      contains ⟨.currentCulture, true⟩ .wholeWords (some "N Q\u0301") "Q" = true := by
  have hmatch : MatchAt ⟨.currentCulture, false⟩ .wholeWords (some "N Q\u0301") "Q"
      "N ".toList "\u0301".toList :=
    ⟨_, rfl, by decide +kernel, by decide +kernel⟩
  have hkeeps : FoldingKeeps .wholeWords "N ".toList (compose "Q".toList) "\u0301".toList := by
    refine ⟨by decide +kernel, by decide +kernel, ?_, ?_⟩
    · rintro - c hc
      obtain rfl : ' ' = c := by simpa using hc
      exact ⟨by decide, fun hattaches => absurd hattaches (by decide +kernel)⟩
    · rintro - c hc
      obtain rfl : '\u0301' = c := by simpa using hc
      decide
  have hcontains := contains_iff_exists_matchAt.mpr ⟨_, _, hmatch⟩
  refine ⟨hcontains, ?_⟩
  obtain ⟨hculture, -⟩ := ignoringCase_keeps_match (some "N Q\u0301") "Q"
  rcases (hculture .currentCulture (by decide)).1 .wholeWords hcontains with hkept | hlost
  · exact hkept
  · exact absurd hkeeps (hlost _ _ hmatch)

end Comparison

end TermSearch
