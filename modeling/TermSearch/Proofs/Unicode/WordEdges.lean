import TermSearch.Proofs.Unicode.Boundary
import TermSearch.Text.Placement
import TermSearch.Unicode.Uppercase

/-!
# Word Characters in Other Forms

What becomes of a character that words are not made of. Its decomposition, its other cases and what
composes from it are again such characters, with a single exception: the iota subscript is a mark,
and changes to the letter iota. The tables bear this out, gone through once, range by range.

## Main definitions

- `RangeMap.covers`, `RangeMap.avoids`: a tree holds all the numbers of an interval, or none.

## Main statements

- `not_word_of_changeCase`: case changes make no word characters, but for the iota subscript.
- `not_word_of_compose`: composition makes no word characters.
- `isWordAt_head_compose`: it puts none at the front of a text.
-/

namespace TermSearch.Unicode

/-! ## Intervals of a tree -/

namespace RangeMap

variable {α : Type}

/-- Whether the tree holds every number from `first` up to, and without, `stop`. -/
def covers : RangeMap α → Nat → Nat → Bool
  | empty, first, stop => stop ≤ first
  | node below lower upper _ above, first, stop =>
    stop ≤ first ||
      below.covers first (min stop lower) && above.covers (max first (upper + 1)) stop

/-- Whether the tree holds no number from `first` up to, and without, `stop`. -/
def avoids : RangeMap α → Nat → Nat → Bool
  | empty, _, _ => true
  | node below lower upper _ above, first, stop =>
    stop ≤ first || (stop ≤ lower || upper < first || upper < lower) &&
      below.avoids first (min stop lower) && above.avoids (max first (upper + 1)) stop

theorem contains_of_covers {m : RangeMap α} {first stop n : Nat} (h : m.covers first stop = true)
    (hfirst : first ≤ n) (hstop : n < stop) : m.contains n = true := by
  -- the interval is cut down on the way to the subtrees
  induction m generalizing first stop with
  | empty =>
    have : stop ≤ first := by simpa [covers] using h
    omega
  | node below lower upper value above ihBelow ihAbove =>
    simp only [covers, Bool.or_eq_true, decide_eq_true_eq, Bool.and_eq_true] at h
    obtain hempty | ⟨hbelow, habove⟩ := h
    · omega
    · rw [contains, find?]
      -- the number is found in the range of the node, or on the side that the search takes
      split
      · exact ihBelow hbelow hfirst (by omega)
      · split
        · exact ihAbove habove (by omega) hstop
        · rfl

theorem not_contains_of_avoids {m : RangeMap α} {first stop n : Nat}
    (h : m.avoids first stop = true) (hfirst : first ≤ n) (hstop : n < stop) :
    m.contains n = false := by
  induction m generalizing first stop with
  | empty => rfl
  | node below lower upper value above ihBelow ihAbove =>
    simp only [avoids, Bool.or_eq_true, decide_eq_true_eq, Bool.and_eq_true] at h
    obtain hempty | ⟨⟨hnode, hbelow⟩, habove⟩ := h
    · omega
    · rw [contains, find?]
      -- the search goes on to a side, since the range of the node is not around the number
      split
      · exact ihBelow hbelow hfirst (by omega)
      · split
        · exact ihAbove habove (by omega) hstop
        · omega

theorem find?_of_avoids {m : RangeMap α} {first stop n : Nat} (h : m.avoids first stop = true)
    (hfirst : first ≤ n) (hstop : n < stop) : m.find? n = none := by
  have hnone := not_contains_of_avoids h hfirst hstop
  rwa [contains, Option.isSome_eq_false_iff, Option.isNone_iff_eq_none] at hnone

end RangeMap

/-! ## Case changes -/

/-- The one mark whose other cases are letters. -/
def iotaSubscript : Char := '\u0345'

/-- Whether the case changes of one range make no word character of another character, the iota
subscript apart. -/
def makesNoWord (range : Nat × Nat × CaseChange) : Bool :=
  wordMap.covers range.1 (range.2.1 + 1) ||
    (List.range (range.2.1 + 1 - range.1)).all fun offset =>
      let c := Char.ofNat (range.1 + offset)
      c == iotaSubscript || isWordCharacter c ||
        (range.2.2.apply offset c).all fun d => !isWordCharacter d

/-- A case mapping whose ranges make no word characters makes none of a character that is none, the
iota subscript apart. -/
theorem not_word_of_changeCase {ranges : List (Nat × Nat × CaseChange)}
    (h : ∀ range ∈ ranges, makesNoWord range = true) {c : Char} (hiota : c ≠ iotaSubscript)
    (hc : isWordCharacter c = false) :
    ∀ d ∈ changeCase (.ofList ranges) c, isWordCharacter d = false := by
  rw [changeCase]
  split
  · next offset change hfind =>
    obtain ⟨first, last, hmem, hfirst, hlast, hoffset⟩ :=
      RangeMap.exists_mem_of_find?_ofList hfind
    have hrange := h _ hmem
    rw [makesNoWord, Bool.or_eq_true] at hrange
    rcases hrange with hcovers | hall
    · -- the range has word characters only
      have hword : isWordCharacter c = true :=
        RangeMap.contains_of_covers hcovers hfirst (Nat.lt_succ_of_le hlast)
      exact absurd hword (Bool.eq_false_iff.mp hc)
    · -- or each of its characters was looked at
      have hwithin : offset < last + 1 - first := by omega
      have hthis := List.all_eq_true.mp hall offset (List.mem_range.mpr hwithin)
      have hchar : Char.ofNat (first + offset) = c := by rw [← hoffset, Char.ofNat_toNat]
      simpa [hchar, hiota, hc] using hthis
  · simpa using hc

/-- No other character is put into upper case by word characters. -/
theorem not_word_of_uppercase {c : Char} (hiota : c ≠ iotaSubscript)
    (hc : isWordCharacter c = false) : ∀ d ∈ uppercase c, isWordCharacter d = false := by
  have h : ∀ range ∈ uppercaseChanges, makesNoWord range = true := by decide +kernel
  unfold uppercase uppercaseMap
  exact not_word_of_changeCase h hiota hc

/-- No other character has its case folded to word characters. -/
theorem not_word_of_foldCase {c : Char} (hiota : c ≠ iotaSubscript)
    (hc : isWordCharacter c = false) : ∀ d ∈ foldCase c, isWordCharacter d = false := by
  have h : ∀ range ∈ foldingChanges, makesNoWord range = true := by decide +kernel
  unfold foldCase foldingMap
  exact not_word_of_changeCase h hiota hc

/-! ## Decomposition -/

theorem toNat_ofNat {n : Nat} (h : n.isValidChar) : (Char.ofNat n).toNat = n := by
  rw [Char.ofNat, dif_pos h]
  rfl

/-- The character of a code point that is no word character is none; what is no code point of a
character stands for the null character. -/
theorem not_word_ofNat {n : Nat} (h : wordMap.contains n = false) :
    isWordCharacter (Char.ofNat n) = false := by
  rw [isWordCharacter]
  by_cases hvalid : n.isValidChar
  · rwa [toNat_ofNat hvalid]
  · rw [Char.ofNat, dif_neg hvalid]
    decide +kernel

/-- Hangul syllables are word characters. -/
theorem contains_syllable {n : Nat} (hfirst : Hangul.firstSyllable ≤ n)
    (hlast : n < Hangul.firstSyllable +
      Hangul.leadingCount * Hangul.vowelCount * Hangul.endingCount) :
    wordMap.contains n = true := by
  have hcovers : wordMap.covers Hangul.firstSyllable (Hangul.firstSyllable +
      Hangul.leadingCount * Hangul.vowelCount * Hangul.endingCount) = true := by
    decide +kernel
  exact RangeMap.contains_of_covers hcovers hfirst hlast

/-- A character that is the same as a pair is a word character if and only if the first one of the
pair is, and the second one is a word character only if so is the first. -/
private theorem contains_of_canonicalPairs : ∀ entry ∈ canonicalPairs,
    wordMap.contains entry.1 = wordMap.contains entry.2.1 ∧
      (wordMap.contains entry.2.1 = false → wordMap.contains entry.2.2 = false) := by
  have h : ∀ entry ∈ canonicalPairs, (wordMap.contains entry.1 == wordMap.contains entry.2.1 &&
      (wordMap.contains entry.2.1 || !wordMap.contains entry.2.2)) = true := by
    decide +kernel
  intro entry hentry
  have hboth := h entry hentry
  rw [Bool.and_eq_true, beq_iff_eq] at hboth
  refine ⟨hboth.1, fun hfirst => ?_⟩
  simpa [hfirst] using hboth.2

/-- A pair that a code point is the same as is in the table. -/
theorem mem_of_pair? {n : Nat} {parts : Nat × Nat} (h : pair? n = some parts) :
    (n, parts) ∈ canonicalPairs := by
  rw [pair?, Option.map_eq_some_iff] at h
  obtain ⟨⟨offset, found⟩, hfind, rfl⟩ := h
  unfold pairMap at hfind
  obtain ⟨entry, hentry, rfl, rfl⟩ :=
    @RangeMap.exists_mem_of_find?_keyed _ _ canonicalPairs (·.1) (·.2) _ _ _ hfind
  exact hentry

/-- The one code point that a code point is the same as is in the table, at its place in a range. -/
theorem exists_mem_of_singleton? {n target : Nat} (h : singleton? n = some target) :
    ∃ range ∈ canonicalSingletons, (range.1 ≤ n ∧ n ≤ range.2.1) ∧ target ∈ range.2.2 := by
  rw [singleton?, Option.bind_eq_some_iff] at h
  obtain ⟨⟨offset, targets⟩, hfind, htarget⟩ := h
  unfold singletonMap at hfind
  obtain ⟨first, last, hmem, hfirst, hlast, -⟩ := RangeMap.exists_mem_of_find?_ofList hfind
  exact ⟨_, hmem, ⟨hfirst, hlast⟩, List.mem_of_getElem? htarget⟩

theorem not_word_of_pair? {n : Nat} {parts : Nat × Nat} (h : pair? n = some parts)
    (hn : wordMap.contains n = false) :
    wordMap.contains parts.1 = false ∧ wordMap.contains parts.2 = false := by
  obtain ⟨hsame, hsecond⟩ := contains_of_canonicalPairs _ (mem_of_pair? h)
  have hfirst : wordMap.contains parts.1 = false := hsame ▸ hn
  exact ⟨hfirst, hsecond hfirst⟩

theorem not_word_of_singleton? {n target : Nat} (h : singleton? n = some target)
    (hn : wordMap.contains n = false) : wordMap.contains target = false := by
  -- either a range has word characters only, or its other characters are none
  have hranges : ∀ range ∈ canonicalSingletons, (wordMap.covers range.1 (range.2.1 + 1) ||
      range.2.2.all fun target => !wordMap.contains target) = true := by
    decide +kernel
  obtain ⟨range, hmem, ⟨hfirst, hlast⟩, htarget⟩ := exists_mem_of_singleton? h
  have hrange := hranges _ hmem
  rw [Bool.or_eq_true] at hrange
  rcases hrange with hcovers | hall
  · have hword := RangeMap.contains_of_covers hcovers hfirst (Nat.lt_succ_of_le hlast)
    exact absurd hword (Bool.eq_false_iff.mp hn)
  · simpa using List.all_eq_true.mp hall target htarget

/-- What carries over along the equations carries over to what they lead to. -/
theorem forall_mem_expand {P : Nat → Prop}
    (hpairs : ∀ n parts, pair? n = some parts → P n → P parts.1 ∧ P parts.2)
    (hsingletons : ∀ n target, singleton? n = some target → P n → P target) {depth n : Nat}
    {tail : List Nat} (hn : P n) (htail : ∀ m ∈ tail, P m) : ∀ m ∈ expand depth n tail, P m := by
  -- every equation leads to another first character, and may add a second one to the tail
  induction depth generalizing n tail with
  | zero => exact List.forall_mem_cons.mpr ⟨hn, htail⟩
  | succ depth ih =>
    rw [expand]
    split
    · next first second hpair =>
      obtain ⟨hfirst, hsecond⟩ := hpairs n _ hpair hn
      exact ih hfirst (List.forall_mem_cons.mpr ⟨hsecond, htail⟩)
    · split
      · next target hsingleton => exact ih (hsingletons n target hsingleton hn) htail
      · exact List.forall_mem_cons.mpr ⟨hn, htail⟩

/-- Following the equations of a character that is no word character leads to none. -/
theorem not_word_of_expand {depth n : Nat} {tail : List Nat} (hn : wordMap.contains n = false)
    (htail : ∀ m ∈ tail, wordMap.contains m = false) :
    ∀ m ∈ expand depth n tail, wordMap.contains m = false :=
  forall_mem_expand (fun _ _ => not_word_of_pair?) (fun _ _ => not_word_of_singleton?) hn htail

/-- A character that is no word character is not decomposed to any. -/
theorem not_word_of_decompose {c : Char} (hc : isWordCharacter c = false) :
    ∀ d ∈ decompose c, isWordCharacter d = false := by
  rw [decompose]
  split
  · next parts hparts =>
    -- only syllables have parts
    rw [Hangul.decompose?] at hparts
    split at hparts
    · next hsyllable =>
      exact absurd (contains_syllable hsyllable.1 hsyllable.2) (Bool.eq_false_iff.mp hc)
    · simp at hparts
  · intro d hd
    obtain ⟨n, hn, rfl⟩ := List.mem_map.mp hd
    have htail : ∀ m ∈ ([] : List Nat), wordMap.contains m = false := by simp
    exact not_word_ofNat (not_word_of_expand hc htail n hn)

/-- Marks are no word characters. -/
theorem not_word_of_mark {c : Char} (h : isStarter c = false) : isWordCharacter c = false := by
  have havoids : ∀ range ∈ combiningClasses, wordMap.avoids range.1 (range.2.1 + 1) = true := by
    decide +kernel
  rw [isStarter, combiningClass] at h
  split at h
  · next offset value hfind =>
    unfold combiningClassMap at hfind
    obtain ⟨first, last, hmem, hfirst, hlast, -⟩ := RangeMap.exists_mem_of_find?_ofList hfind
    exact RangeMap.not_contains_of_avoids (havoids _ hmem) hfirst (Nat.lt_succ_of_le hlast)
  · simp at h

/-! ## Composition -/

/-- Leading consonants are word characters. -/
theorem contains_leading {n : Nat} (h : Hangul.isLeading n = true) : wordMap.contains n = true := by
  have hcovers : wordMap.covers Hangul.firstLeading (Hangul.firstLeading + Hangul.leadingCount) =
      true := by
    decide +kernel
  rw [Hangul.isLeading, Bool.and_eq_true, decide_eq_true_eq, decide_eq_true_eq] at h
  exact RangeMap.contains_of_covers hcovers h.1 h.2

/-- Syllables are composed from word characters. -/
theorem contains_of_hangul {a b n : Nat} (h : Hangul.compose? a b = some n) :
    wordMap.contains a = true := by
  rw [Hangul.compose?] at h
  split at h
  · next hpair => exact contains_leading (Bool.and_eq_true_iff.mp hpair).1
  · split at h
    · next hpair =>
      -- the first one is a syllable itself, without a trailing consonant
      have hopen : Hangul.isOpenSyllable a = true := (Bool.and_eq_true_iff.mp hpair).1
      simp only [Hangul.isOpenSyllable, Bool.and_eq_true, decide_eq_true_eq] at hopen
      exact contains_syllable hopen.1.1 hopen.1.2
    · simp at h

/-- With a character that is no word character, nothing composes to one. -/
theorem not_word_of_compose? {a b c : Char} (h : compose? a b = some c)
    (ha : isWordCharacter a = false) : isWordCharacter c = false := by
  rw [compose?] at h
  split at h
  · next n hhangul => exact absurd (contains_of_hangul hhangul) (Bool.eq_false_iff.mp ha)
  -- any other composite is a character with a pair, and counts as its first character does
  · rw [Option.map_eq_some_iff] at h
    obtain ⟨n, hn, rfl⟩ := h
    rw [Option.bind_eq_some_iff] at hn
    obtain ⟨⟨offset, composites⟩, hfind, hlookup⟩ := hn
    obtain ⟨before, after, rfl, -⟩ := List.lookup_eq_some_iff.mp hlookup
    have hpair := (mem_of_find?_compositeMap hfind).2 a.toNat n (by simp)
    refine not_word_ofNat ?_
    rw [(contains_of_canonicalPairs _ hpair).1]
    exact ha

theorem mem_placeMark {c d : Char} {text : List Char} :
    d ∈ placeMark c text ↔ d = c ∨ d ∈ text := by
  induction text with
  | nil => simp [placeMark]
  | cons x rest ih =>
    rw [placeMark]
    split
    · simp only [List.mem_cons, ih]
      exact or_left_comm
    · simp

/-- Putting marks in order keeps the characters. -/
theorem mem_sortMarks {d : Char} {text : List Char} : d ∈ sortMarks text ↔ d ∈ text := by
  induction text with
  | nil => rfl
  | cons c rest ih => rw [sortMarks, mem_placeMark, ih, List.mem_cons]

/-- What composites have from their pairs, the characters have that are composed behind a
starter. -/
theorem forall_mem_composeAfter {P : Char → Prop}
    (hP : ∀ a b c, compose? a b = some c → P a → P b → P c) {starter : Char} {held text : List Char}
    (hstarter : P starter) (hheld : ∀ c ∈ held, P c) (htext : ∀ c ∈ text, P c) :
    ∀ d ∈ composeAfter starter held text, P d := by
  -- the starter changes as it takes up characters, and marks are held back
  induction text generalizing starter held with
  | nil => simpa [composeAfter] using ⟨hstarter, hheld⟩
  | cons c rest ih =>
    obtain ⟨hc, hrest⟩ := List.forall_mem_cons.mp htext
    rw [composeAfter]
    split
    · next composite hcomposite =>
      have hpair : compose? starter c = some composite :=
        (Option.ite_none_left_eq_some.mp hcomposite).2
      exact ih (hP _ _ _ hpair hstarter hc) hheld hrest
    · split
      · intro d hd
        rw [List.mem_append, List.mem_cons, List.mem_reverse] at hd
        obtain (rfl | hd) | hd := hd
        · exact hstarter
        · exact hheld d hd
        · exact ih hc (by simp) hrest d hd
      · exact ih hstarter (List.forall_mem_cons.mpr ⟨hc, hheld⟩) hrest

/-- What composites have from their pairs, the characters of a composed text have if the parts of
its characters do. -/
theorem forall_mem_compose {P : Char → Prop}
    (hP : ∀ a b c, compose? a b = some c → P a → P b → P c) {text : List Char}
    (h : ∀ c ∈ text, ∀ d ∈ decompose c, P d) : ∀ d ∈ compose text, P d := by
  have hdecomposed : ∀ d ∈ decomposeText text, P d := by
    intro d hd
    rw [decomposeText, mem_sortMarks, List.mem_flatMap] at hd
    obtain ⟨c, hc, hd⟩ := hd
    exact h c hc d hd
  rw [compose]
  -- marks in front of all starters stay as they are
  generalize decomposeText text = marks at hdecomposed
  induction marks with
  | nil => simp [composeMarks]
  | cons c rest ih =>
    obtain ⟨hc, hrest⟩ := List.forall_mem_cons.mp hdecomposed
    rw [composeMarks]
    split
    · exact forall_mem_composeAfter hP hc (by simp) hrest
    · exact List.forall_mem_cons.mpr ⟨hc, ih hrest⟩

/-- A text without word characters is composed without any. -/
theorem not_word_of_compose {text : List Char} (h : ∀ c ∈ text, isWordCharacter c = false) :
    ∀ d ∈ compose text, isWordCharacter d = false :=
  forall_mem_compose (fun _ _ _ hpair ha _ => not_word_of_compose? hpair ha)
    fun c hc => not_word_of_decompose (h c hc)

/-! ## The first character -/

open Text (isWordAt)

/-- The front of a composed text is what its starter has become. -/
theorem isWordAt_head_composeAfter {starter : Char} (h : isWordCharacter starter = false)
    (held text : List Char) : isWordAt (composeAfter starter held text).head? = false := by
  induction text generalizing starter held with
  | nil => exact h
  | cons c rest ih =>
    rw [composeAfter]
    split
    · next composite hcomposite =>
      have hpair : compose? starter c = some composite :=
        (Option.ite_none_left_eq_some.mp hcomposite).2
      exact ih (not_word_of_compose? hpair h) held
    · split
      · exact h
      · exact ih h (c :: held)

/-- A character comes to the front of a text, or a mark does in its place. -/
theorem exists_placeMark_eq_cons (c : Char) (text : List Char) :
    ∃ d rest, placeMark c text = d :: rest ∧ (d = c ∨ isStarter d = false) := by
  cases text with
  | nil => exact ⟨c, [], rfl, .inl rfl⟩
  | cons d rest =>
    rw [placeMark]
    split
    · next hmark =>
      rw [Bool.and_eq_true, Bool.not_eq_true'] at hmark
      exact ⟨d, _, rfl, .inr hmark.1⟩
    · exact ⟨c, _, rfl, .inl rfl⟩

/-- A text that begins with no word character is composed to one that begins with none. -/
theorem isWordAt_head_compose {text : List Char} (h : isWordAt text.head? = false) :
    isWordAt (compose text).head? = false := by
  cases text with
  | nil => rfl
  | cons c rest =>
    cases hc : decompose c with
    | nil => exact absurd hc (decompose_ne_nil c)
    | cons d more =>
      have hd : isWordCharacter d = false := not_word_of_decompose h d (by simp [hc])
      rw [compose, decomposeText, List.flatMap_cons, hc, List.cons_append, sortMarks]
      -- once marks are in order, this character is at the front, or a mark is
      obtain ⟨front, marks, hmarks, hfront⟩ :=
        exists_placeMark_eq_cons d (sortMarks (more ++ rest.flatMap decompose))
      rw [hmarks, composeMarks]
      split
      · next hstarter =>
        obtain rfl : front = d := by simpa [hstarter] using hfront
        exact isWordAt_head_composeAfter hd [] marks
      · next hmark => exact not_word_of_mark (Bool.eq_false_iff.mpr hmark)

end TermSearch.Unicode
