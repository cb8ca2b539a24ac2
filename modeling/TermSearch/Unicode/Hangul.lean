/-!
# Hangul Syllables

Hangul syllables are composed and decomposed by arithmetic: a syllable stands for a leading
consonant, a vowel and perhaps a trailing consonant, and the syllables are numbered in the
order of these three.
-/

namespace TermSearch.Unicode.Hangul

/-- The first syllable, followed by all others. -/
def firstSyllable : Nat := 0xAC00

/-- The first leading consonant. -/
def firstLeading : Nat := 0x1100

/-- The first vowel. -/
def firstVowel : Nat := 0x1161

/-- The code point before the first trailing consonant; at distance zero it stands for none. -/
def noTrailing : Nat := 0x11A7

/-- The number of leading consonants. -/
def leadingCount : Nat := 19

/-- The number of vowels. -/
def vowelCount : Nat := 21

/-- The number of ways in which a syllable may end: without a consonant, or with one of 27. -/
def endingCount : Nat := 28

/-- The parts of a syllable. -/
def decompose? (n : Nat) : Option (List Nat) :=
  if firstSyllable ≤ n ∧ n < firstSyllable + leadingCount * vowelCount * endingCount then
    let index := n - firstSyllable
    let leading := firstLeading + index / (vowelCount * endingCount)
    let vowel := firstVowel + index % (vowelCount * endingCount) / endingCount
    let ending := index % endingCount
    if ending = 0 then some [leading, vowel] else some [leading, vowel, noTrailing + ending]
  else none

/-- Whether the code point is a leading consonant. -/
def isLeading (n : Nat) : Bool :=
  firstLeading ≤ n && n < firstLeading + leadingCount

/-- Whether the code point is a vowel. -/
def isVowel (n : Nat) : Bool :=
  firstVowel ≤ n && n < firstVowel + vowelCount

/-- Whether the code point is a trailing consonant. -/
def isTrailing (n : Nat) : Bool :=
  noTrailing < n && n < noTrailing + endingCount

/-- Whether the code point is a syllable without a trailing consonant. -/
def isOpenSyllable (n : Nat) : Bool :=
  firstSyllable ≤ n && n < firstSyllable + leadingCount * vowelCount * endingCount &&
    (n - firstSyllable) % endingCount == 0

/-- The syllable of a leading consonant and a vowel, or of an open syllable and a trailing
consonant. -/
def compose? (a b : Nat) : Option Nat :=
  if isLeading a && isVowel b then
    some (firstSyllable + ((a - firstLeading) * vowelCount + (b - firstVowel)) * endingCount)
  else if isOpenSyllable a && isTrailing b then
    some (a + (b - noTrailing))
  else none

end TermSearch.Unicode.Hangul
