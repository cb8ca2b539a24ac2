import TermSearch.Unicode.Hangul

/-!
# Syllables and Their Parts

Composing Hangul syllables and decomposing them are inverse to each other: the numbers of the
consonants and the vowel that a syllable is made of are the digits of its own number.

## Main statements

- `Hangul.decompose?_syllable`: a syllable is decomposed into what it is made of.
- `Hangul.decompose?_of_compose?`: a composed syllable is decomposed into what it was composed from.
-/

namespace TermSearch.Unicode.Hangul

/-- The parts of a Hangul syllable are consonants and vowels. -/
theorem bounds_of_mem_decompose? {n m : Nat} {parts : List Nat} (h : decompose? n = some parts)
    (hm : m ∈ parts) : firstLeading ≤ m ∧ m < noTrailing + endingCount := by
  rw [decompose?] at h
  split at h
  · next hrange =>
    dsimp only at h
    -- with or without a trailing consonant, each part is within its own range
    split at h
    all_goals
      obtain rfl := Option.some.inj h
      simp only [List.mem_cons, List.not_mem_nil, or_false, firstSyllable, leadingCount, vowelCount,
        endingCount, firstLeading, firstVowel, noTrailing] at hm hrange ⊢
      omega
  · exact nomatch h

/-- Only syllables are decomposed. -/
theorem range_of_decompose? {n : Nat} {parts : List Nat} (h : decompose? n = some parts) :
    firstSyllable ≤ n ∧ n < firstSyllable + leadingCount * vowelCount * endingCount := by
  rw [decompose?] at h
  split at h
  · next hrange => exact hrange
  · exact nomatch h

theorem isValidChar_of_decompose? {n : Nat} {parts : List Nat} (h : decompose? n = some parts) :
    n.isValidChar := by
  have hrange := range_of_decompose? h
  simp only [firstSyllable, leadingCount, vowelCount, endingCount] at hrange
  refine .inl ?_
  omega

/-- A syllable is decomposed into what it is made of. -/
theorem decompose?_syllable {leading vowel ending : Nat} (hleading : leading < leadingCount)
    (hvowel : vowel < vowelCount) (hending : ending < endingCount) :
    decompose? (firstSyllable + (leading * vowelCount + vowel) * endingCount + ending) =
      if ending = 0 then some [firstLeading + leading, firstVowel + vowel]
      else some [firstLeading + leading, firstVowel + vowel, noTrailing + ending] := by
  obtain ⟨n, hn⟩ : ∃ n, n = firstSyllable + (leading * vowelCount + vowel) * endingCount + ending :=
    ⟨_, rfl⟩
  simp only [firstSyllable, leadingCount, vowelCount, endingCount] at hleading hvowel hending hn
  have hrange : firstSyllable ≤ n ∧
      n < firstSyllable + leadingCount * vowelCount * endingCount := by
    simp only [firstSyllable, leadingCount, vowelCount, endingCount]
    omega
  have hfirst : (n - firstSyllable) / (vowelCount * endingCount) = leading := by
    simp only [firstSyllable, vowelCount, endingCount]
    omega
  have hsecond : (n - firstSyllable) % (vowelCount * endingCount) / endingCount = vowel := by
    simp only [firstSyllable, vowelCount, endingCount]
    omega
  have hlast : (n - firstSyllable) % endingCount = ending := by
    simp only [firstSyllable, endingCount]
    omega
  have hsyllable : firstSyllable + (leading * vowelCount + vowel) * endingCount + ending = n :=
    hn.symm
  rw [hsyllable, decompose?, if_pos hrange]
  dsimp only
  rw [hfirst, hsecond, hlast]

/-- A composed syllable is decomposed into the two that it is composed from, the first of which
may be a syllable itself. -/
theorem decompose?_of_compose? {a b n : Nat} (h : compose? a b = some n) :
    isLeading a = true ∧ decompose? n = some [a, b] ∨
      ∃ parts, decompose? a = some parts ∧ decompose? n = some (parts ++ [b]) := by
  rw [compose?] at h
  split at h
  · next hpair =>
    -- a leading consonant and a vowel
    obtain ⟨ha, hb⟩ := Bool.and_eq_true_iff.mp hpair
    obtain rfl := Option.some.inj h
    have hleading := ha
    simp only [isLeading, isVowel, Bool.and_eq_true, decide_eq_true_eq] at hleading hb
    have hopen := @decompose?_syllable (a - firstLeading) (b - firstVowel) 0 (by omega) (by omega)
      (by decide)
    rw [Nat.add_zero, if_pos rfl, Nat.add_sub_cancel' hleading.1, Nat.add_sub_cancel' hb.1] at hopen
    exact .inl ⟨ha, hopen⟩
  · split at h
    · next hpair =>
      -- an open syllable and a trailing consonant
      obtain ⟨ha, hb⟩ := Bool.and_eq_true_iff.mp hpair
      obtain rfl := Option.some.inj h
      simp only [isOpenSyllable, isTrailing, Bool.and_eq_true, decide_eq_true_eq, beq_iff_eq]
        at ha hb
      obtain ⟨⟨hfirst, hstop⟩, hopen⟩ := ha
      obtain ⟨leading, vowel, hleading, hvowel, rfl⟩ : ∃ leading vowel, leading < leadingCount ∧
          vowel < vowelCount ∧
            a = firstSyllable + (leading * vowelCount + vowel) * endingCount := by
        refine ⟨(a - firstSyllable) / (vowelCount * endingCount),
          (a - firstSyllable) / endingCount % vowelCount, ?_, ?_, ?_⟩
        all_goals
          simp only [firstSyllable, leadingCount, vowelCount, endingCount] at hfirst hstop hopen ⊢
          omega
      have hparts := @decompose?_syllable leading vowel 0 hleading hvowel (by decide)
      have hclosed := @decompose?_syllable leading vowel (b - noTrailing) hleading hvowel (by omega)
      have hsome : b - noTrailing ≠ 0 := by omega
      rw [if_neg hsome, Nat.add_sub_cancel' (Nat.le_of_lt hb.1)] at hclosed
      exact .inr ⟨_, hparts, hclosed⟩
    · exact nomatch h

end TermSearch.Unicode.Hangul
