import TermSearch.Proofs.Comparison.CaseFolding
import TermSearch.Proofs.Unicode.Recomposition

/-!
# Changing Case Once More

Texts whose case was changed have no case left to change. That is said of a single character in
upper case, and of one whose case is folded. Folding and composing together are another matter:
composition puts characters back that fold again, such as a `j` with a caron, which folds to the
two characters that it is composed from. What is left is said of decompositions: the parts of a
folded text fold to themselves, composition keeps the parts, and a character whose parts fold to
themselves folds to a spelling of the same parts.

## Main definitions

- `isUnchanged`: a case mapping has no change for a character.
- `keepsCase`, `partsKeepCase`: case folding has none for a character, or for its parts.
- `foldsWith`: case folding goes together with an equation between characters.

## Main statements

- `uppercase_uppercase`: a text in upper case stays as it is.
- `foldText_foldText`: a text that was folded and composed stays as it is.
-/

namespace TermSearch.Unicode

/-! ## Single characters -/

/-- Whether a case mapping has no change for a code point. -/
def isUnchanged (changes : RangeMap CaseChange) (n : Nat) : Bool :=
  match changes.find? n with
  | none => true
  | some (offset, .shift stride _) => offset % stride != 0
  | some (_, .spell _) => false

theorem changeCase_of_isUnchanged {changes : RangeMap CaseChange} {c : Char}
    (h : isUnchanged changes c.toNat = true) : changeCase changes c = [c] := by
  rw [isUnchanged] at h
  rw [changeCase]
  split at h
  · next hfind => rw [hfind]
  · next offset stride distance hfind =>
    rw [hfind]
    exact if_neg (bne_iff_ne.mp h)
  · exact Bool.noConfusion h

/-- Whether a case mapping has no further change for what it makes of the characters of a range. -/
def leavesResults (changes : RangeMap CaseChange) (range : Nat × Nat × CaseChange) : Bool :=
  (List.range (range.2.1 + 1 - range.1)).all fun offset =>
    (range.2.2.apply offset (Char.ofNat (range.1 + offset))).all fun d =>
      isUnchanged changes d.toNat

/-- A case mapping has no further change for what it makes of a character if that is so for the
characters of its ranges. -/
theorem isUnchanged_of_mem_changeCase {ranges : List (Nat × Nat × CaseChange)}
    (h : ∀ range ∈ ranges, leavesResults (.ofList ranges) range = true) {c d : Char}
    (hd : d ∈ changeCase (.ofList ranges) c) : isUnchanged (.ofList ranges) d.toNat = true := by
  rw [changeCase] at hd
  split at hd
  · next offset change hfind =>
    obtain ⟨first, last, hmem, hfirst, hlast, hoffset⟩ := RangeMap.exists_mem_of_find?_ofList hfind
    have hwithin : offset < last + 1 - first := by omega
    have hthis := List.all_eq_true.mp (h _ hmem) offset (List.mem_range.mpr hwithin)
    have hchar : Char.ofNat (first + offset) = c := by rw [← hoffset, Char.ofNat_toNat]
    rw [hchar] at hthis
    exact List.all_eq_true.mp hthis d hd
  · -- a character that is in no range is left as it is
    next hfind =>
    obtain rfl := List.mem_singleton.mp hd
    rw [isUnchanged, hfind]

theorem uppercase_of_mem_uppercase {c d : Char} (h : d ∈ uppercase c) : uppercase d = [d] := by
  have hranges : ∀ range ∈ uppercaseChanges,
      leavesResults (.ofList uppercaseChanges) range = true := by
    decide +kernel
  unfold uppercase uppercaseMap at h ⊢
  exact changeCase_of_isUnchanged (isUnchanged_of_mem_changeCase hranges h)

/-- A text in upper case stays as it is. -/
theorem uppercase_uppercase (text : List Char) :
    (text.flatMap uppercase).flatMap uppercase = text.flatMap uppercase := by
  rw [List.flatMap_assoc]
  refine List.flatMap_congr fun c _ => ?_
  rw [List.flatMap_congr fun d hd => uppercase_of_mem_uppercase hd, List.flatMap_singleton']

/-! ## Parts of characters -/

/-- Whether folding has no change for a code point. -/
def keepsCase (n : Nat) : Bool :=
  isUnchanged foldingMap n

/-- Whether folding has no change for any part of the character. -/
def partsKeepCase (c : Char) : Bool :=
  (decompose c).all fun d => keepsCase d.toNat

theorem foldCase_of_keepsCase {c : Char} (h : keepsCase c.toNat = true) : foldCase c = [c] :=
  changeCase_of_isUnchanged h

theorem keepsCase_of_mem_foldCase {c d : Char} (h : d ∈ foldCase c) : keepsCase d.toNat = true := by
  have hranges : ∀ range ∈ foldingChanges, leavesResults (.ofList foldingChanges) range = true := by
    decide +kernel
  unfold foldCase foldingMap at h
  unfold keepsCase foldingMap
  exact isUnchanged_of_mem_changeCase hranges h

/-- Intervals of code points that have no case: those in front of the letters, the consonants
and vowels of Hangul, its syllables, and most ideographs. -/
def caselessIntervals : List (Nat × Nat) := [
  (0, 0x41), (Hangul.firstLeading, Hangul.noTrailing + Hangul.endingCount),
  (Hangul.firstSyllable, Hangul.firstSyllable +
    Hangul.leadingCount * Hangul.vowelCount * Hangul.endingCount),
  (0x3400, 0xA000), (0x20000, 0x2F800)]

/-- Folding has no change for the numbers that its table has not. -/
theorem keepsCase_of_find? {n : Nat} (h : foldingMap.find? n = none) : keepsCase n = true := by
  rw [keepsCase, isUnchanged, h]

theorem keepsCase_of_isWithin {n : Nat} (h : isWithin caselessIntervals n = true) :
    keepsCase n = true := by
  have havoids : ∀ interval ∈ caselessIntervals,
      foldingMap.avoids interval.1 interval.2 = true := by
    decide +kernel
  exact keepsCase_of_find? (RangeMap.find?_of_isWithin havoids h)

/-- The character of a code point that folding has no change for has none; what is no code point
of a character stands for the null character. -/
theorem keepsCase_toNat_ofNat {n : Nat} (h : keepsCase n = true) :
    keepsCase (Char.ofNat n).toNat = true := by
  by_cases hvalid : n.isValidChar
  · rwa [toNat_ofNat hvalid]
  · rw [Char.ofNat, dif_neg hvalid]
    exact keepsCase_of_isWithin (by decide)

/-! ## Folding and equations -/

/-- Whether folding goes together with an equation that leads to `parts`: it leaves the
character and the parts, or it changes the case of some part of the character, or it spells the
same parts. -/
def foldsWith (parts : List Nat) (n : Nat) : Bool :=
  bif keepsCase n then parts.all keepsCase
  else !partsKeepCase (Char.ofNat n) ||
    (foldCase (Char.ofNat n)).flatMap decompose == decompose (Char.ofNat n)

theorem foldsWith_of_find? {parts : List Nat} {n : Nat} (hn : foldingMap.find? n = none)
    (hparts : ∀ m ∈ parts, keepsCase m = true) : foldsWith parts n = true := by
  rw [foldsWith, keepsCase_of_find? hn]
  exact List.all_eq_true.mpr hparts

/-- The table bears it out for each pair. -/
private theorem foldsWith_of_canonicalPairs :
    ∀ entry ∈ canonicalPairs, foldsWith [entry.2.1, entry.2.2] entry.1 = true := by
  decide +kernel

theorem foldsWith_of_pair? {n : Nat} {parts : Nat × Nat} (h : pair? n = some parts) :
    foldsWith [parts.1, parts.2] n = true :=
  foldsWith_of_canonicalPairs _ (mem_of_pair? h)

/-- And it does so for the ranges of characters that are the same as other ones. -/
theorem foldsWith_of_singleton? {n target : Nat} (h : singleton? n = some target) :
    ∃ targets, target ∈ targets ∧ foldsWith targets n = true := by
  -- either a range has no case and neither do its targets, or each of its characters is looked at
  have hranges : ∀ range ∈ canonicalSingletons,
      (foldingMap.avoids range.1 (range.2.1 + 1) &&
          (range.2.2.all fun m => isWithin caselessIntervals m || keepsCase m) ||
        (List.range (range.2.1 + 1 - range.1)).all fun offset =>
          foldsWith range.2.2 (range.1 + offset)) = true := by
    decide +kernel
  obtain ⟨range, hmem, ⟨hfirst, hlast⟩, htarget⟩ := exists_mem_of_singleton? h
  refine ⟨range.2.2, htarget, ?_⟩
  have hrange := hranges _ hmem
  rw [Bool.or_eq_true, Bool.and_eq_true] at hrange
  rcases hrange with ⟨havoids, hkeep⟩ | hall
  · have hnone := RangeMap.find?_of_avoids havoids hfirst (Nat.lt_succ_of_le hlast)
    refine foldsWith_of_find? hnone fun m hm => ?_
    exact (Bool.or_eq_true_iff.mp (List.all_eq_true.mp hkeep m hm)).elim keepsCase_of_isWithin id
  · have hthis := List.all_eq_true.mp hall (n - range.1) (List.mem_range.mpr (by omega))
    rwa [Nat.add_sub_cancel' hfirst] at hthis

/-- Where folding leaves a character and goes together with an equation, it leaves the parts. -/
theorem keepsCase_of_foldsWith {parts : List Nat} {n m : Nat} (h : foldsWith parts n = true)
    (hn : keepsCase n = true) (hm : m ∈ parts) : keepsCase m = true := by
  rw [foldsWith, hn] at h
  exact List.all_eq_true.mp h m hm

/-- Where it changes a character and no part of it, it spells the same parts. -/
theorem flatMap_decompose_of_foldsWith {parts : List Nat} {c : Char}
    (h : foldsWith parts c.toNat = true) (hc : keepsCase c.toNat = false)
    (hparts : partsKeepCase c = true) : (foldCase c).flatMap decompose = decompose c := by
  simpa [foldsWith, hc, Char.ofNat_toNat, hparts] using h

/-! ## Folding and decomposition -/

/-- Where folding has no change for a character, it has none for its parts. -/
theorem partsKeepCase_of_keepsCase {c : Char} (h : keepsCase c.toNat = true) :
    partsKeepCase c = true := by
  rw [partsKeepCase, List.all_eq_true, decompose]
  split
  · next parts hparts =>
    -- neither consonants nor vowels of Hangul have case
    intro d hd
    obtain ⟨m, hm, rfl⟩ := List.mem_map.mp hd
    obtain ⟨hfirst, hlast⟩ := Hangul.bounds_of_mem_decompose? hparts hm
    exact keepsCase_toNat_ofNat
      (keepsCase_of_isWithin (isWithin_of_mem (by decide) hfirst hlast))
  · intro d hd
    obtain ⟨m, hm, rfl⟩ := List.mem_map.mp hd
    -- every equation on the way leads to code points that folding leaves as well
    refine keepsCase_toNat_ofNat (forall_mem_expand (P := fun m => keepsCase m = true)
      (fun n parts hpair hn => ?_) (fun n target hsingleton hn => ?_) h (by simp) m hm)
    · have hfolds := foldsWith_of_pair? hpair
      exact ⟨keepsCase_of_foldsWith hfolds hn (by simp), keepsCase_of_foldsWith hfolds hn (by simp)⟩
    · obtain ⟨targets, htarget, hfolds⟩ := foldsWith_of_singleton? hsingleton
      exact keepsCase_of_foldsWith hfolds hn htarget

/-- A character whose parts fold to themselves folds to a spelling of the same parts. -/
theorem flatMap_decompose_foldCase {c : Char} (h : partsKeepCase c = true) :
    (foldCase c).flatMap decompose = decompose c := by
  cases hkeeps : keepsCase c.toNat with
  | true => rw [foldCase_of_keepsCase hkeeps, List.flatMap_singleton]
  | false =>
    rcases decompose_cases c with ⟨parts, hhangul⟩ | ⟨parts, hpair⟩ | ⟨target, hsingleton⟩ | hself
    · -- Hangul syllables have no case
      obtain ⟨hfirst, hlast⟩ := Hangul.range_of_decompose? hhangul
      have hcaseless := keepsCase_of_isWithin (isWithin_of_mem (by decide) hfirst hlast)
      rw [hcaseless] at hkeeps
      exact Bool.noConfusion hkeeps
    · exact flatMap_decompose_of_foldsWith (foldsWith_of_pair? hpair) hkeeps h
    · obtain ⟨targets, -, hfolds⟩ := foldsWith_of_singleton? hsingleton
      exact flatMap_decompose_of_foldsWith hfolds hkeeps h
    · -- a character that has no part but itself changes its case in this part
      rw [partsKeepCase, hself, List.all_cons, hkeeps] at h
      exact Bool.noConfusion h

/-! ## Texts -/

/-- A composite has parts that fold to themselves if both characters of its pair do. -/
theorem partsKeepCase_of_compose? {a b c : Char} (h : compose? a b = some c)
    (ha : partsKeepCase a = true) (hb : partsKeepCase b = true) : partsKeepCase c = true := by
  have hparts := decompose_of_compose? h
  have hself : decompose b = [b] := decompose_of_mem_decompose (c := c) (by simp [hparts])
  rw [partsKeepCase, hself] at hb
  rw [partsKeepCase, hparts, List.all_append, hb, Bool.and_true]
  exact ha

/-- The characters of a folded text have parts that fold to themselves. -/
theorem partsKeepCase_of_mem_foldText {text : List Char} {c : Char} (h : c ∈ foldText text) :
    partsKeepCase c = true := by
  refine forall_mem_compose (fun _ _ _ => partsKeepCase_of_compose?) (fun d hd e he => ?_) c h
  obtain ⟨x, -, hd⟩ := List.mem_flatMap.mp hd
  have hkeeps := partsKeepCase_of_keepsCase (keepsCase_of_mem_foldCase hd)
  rw [partsKeepCase, decompose_of_mem_decompose he, List.all_cons, List.all_nil, Bool.and_true]
  exact List.all_eq_true.mp hkeeps e he

/-- A text that was folded and composed stays as it is. -/
theorem foldText_foldText (text : List Char) : foldText (foldText text) = foldText text := by
  -- folding it once more spells the same parts
  have hparts : ((foldText text).flatMap foldCase).flatMap decompose =
      (foldText text).flatMap decompose := by
    rw [List.flatMap_assoc]
    exact List.flatMap_congr fun c hc =>
      flatMap_decompose_foldCase (partsKeepCase_of_mem_foldText hc)
  calc foldText (foldText text)
      = composeMarks (sortMarks (((foldText text).flatMap foldCase).flatMap decompose)) := rfl
    _ = compose (foldText text) := by rw [hparts]; rfl
    _ = foldText text := compose_compose _

/-- A `j` with a caron folds to two characters, and these compose to it again. -/
example : foldCase '\u01F0' = ['j', '\u030C'] ∧ foldText ['\u01F0'] = ['\u01F0'] := by
  decide +kernel

end TermSearch.Unicode
