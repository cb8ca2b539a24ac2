import TermSearch.Proofs.Text.Occurrence
import TermSearch.Text.WordPattern

/-!
# Reading Patterns

What a pattern of whole words means as a regular expression. Such an expression is read into parts:
characters that stand for themselves, and conditions on what stands before or after a place. Parts
are matched from a place on, and the matches in a text are gone through from left to right: a failed
attempt moves on by one character, and a match to its end.

The pattern of a term is read as the characters of the term between two conditions, whatever these
characters mean in other expressions. So its matches are the occurrences that are taken from a text.

## Main definitions

- `Text.readPattern`: the parts of a regular expression.
- `Text.matchLength`: how far parts match from a place on.
- `Text.patternSpans`: the matches of a regular expression in a text.

## Main statements

- `Text.readPattern_wordPattern`: the parts of the pattern of a term.
- `Text.patternSpans_wordPattern`: its matches are the occurrences that are taken as whole words.
-/

namespace TermSearch.Text

/-! ## Parts -/

/-- A part of a regular expression. -/
inductive PatternPart where
  /-- A character that stands for itself. -/
  | character (c : Char)
  /-- No word character stands directly before the place. -/
  | noWordBefore
  /-- No word character stands directly after the place. -/
  | noWordAfter
  deriving DecidableEq, Repr

/-- The characters that stand for something else than themselves where they are not escaped. -/
def metacharacters : List Char :=
  ['.', '^', '$', '*', '+', '?', '\x7b', '[', '\\', '|', '(', ')']

/-- Reads a regular expression into its parts. Behind a backslash, a character stands for itself
unless it is a letter or a digit. Expressions with other constructs are not read. -/
def readPattern : List Char → Option (List PatternPart)
  | [] => some []
  | '(' :: '?' :: '<' :: '!' :: '\\' :: 'w' :: ')' :: rest =>
    (readPattern rest).map (.noWordBefore :: ·)
  | '(' :: '?' :: '!' :: '\\' :: 'w' :: ')' :: rest => (readPattern rest).map (.noWordAfter :: ·)
  | '\\' :: c :: rest =>
    if c.isAlphanum then none else (readPattern rest).map (.character c :: ·)
  | c :: rest =>
    if metacharacters.contains c then none else (readPattern rest).map (.character c :: ·)

/-! ## Matches -/

/-- How many characters at the front of `rest` the parts match, where `before` is the character in
front of it. -/
def matchLength : List PatternPart → Option Char → List Char → Option Nat
  | [], _, _ => some 0
  | .noWordBefore :: parts, before, rest =>
    if isWordAt before then none else matchLength parts before rest
  | .noWordAfter :: parts, before, rest =>
    if isWordAt rest.head? then none else matchLength parts before rest
  | .character _ :: _, _, [] => none
  | .character c :: parts, _, d :: rest =>
    if c = d then (matchLength parts (some d) rest).map (· + 1) else none

/-- The spans of the matches in `rest`, which begins at `position`; the first `skip` characters
belong to a match already found. -/
def partSpansFrom (parts : List PatternPart) :
    Option Char → Nat → Nat → List Char → List (Nat × Nat)
  | before, position, _, [] =>
    match matchLength parts before [] with
    | some length => [(position, position + length)]
    | none => []
  | _, position, skip + 1, c :: rest => partSpansFrom parts (some c) (position + 1) skip rest
  | before, position, 0, c :: rest =>
    match matchLength parts before (c :: rest) with
    | some length =>
      (position, position + length) :: partSpansFrom parts (some c) (position + 1) (length - 1) rest
    | none => partSpansFrom parts (some c) (position + 1) 0 rest

/-- The spans of the matches of a regular expression in a text, if it can be read. -/
def patternSpans (pattern text : String) : Option (List (Nat × Nat)) :=
  (readPattern pattern.toList).map fun parts => partSpansFrom parts none 0 0 text.toList

/-! ## Patterns of whole words -/

/-- A character that a pattern escapes stands for itself behind the backslash. -/
private theorem isAlphanum_of_special {c : Char} (h : patternSpecials.contains c = true) :
    c.isAlphanum = false := by
  have hall : (patternSpecials.any Char.isAlphanum) = false := by decide +kernel
  exact Bool.eq_false_iff.mpr (List.any_eq_false.mp hall c (List.contains_iff_mem.mp h))

/-- A character that a pattern does not escape stands for itself. -/
private theorem not_metacharacter {c : Char} (h : patternSpecials.contains c = false) :
    metacharacters.contains c = false := by
  have hall : metacharacters.all patternSpecials.contains = true := by decide +kernel
  rw [Bool.eq_false_iff]
  intro hmem
  rw [List.all_eq_true.mp hall c (List.contains_iff_mem.mp hmem)] at h
  exact Bool.noConfusion h

/-- An escaped text is read as its characters. -/
theorem readPattern_escapePattern (cs rest : List Char) :
    readPattern (escapePattern cs ++ rest) =
      (readPattern rest).map (cs.map .character ++ ·) := by
  induction cs with
  | nil => simp [escapePattern]
  | cons c cs ih =>
    have hsplit : escapePattern (c :: cs) ++ rest =
        (if patternSpecials.contains c then ['\\', c] else [c]) ++
          (escapePattern cs ++ rest) := by
      simp [escapePattern]
    rw [hsplit]
    cases hspecial : patternSpecials.contains c with
    | true =>
      show readPattern ('\\' :: c :: (escapePattern cs ++ rest)) = _
      rw [readPattern, isAlphanum_of_special hspecial, ih]
      simp [Function.comp_def]
    | false =>
      have hmeta := not_metacharacter hspecial
      have hbackslash : c ≠ '\\' := by
        rintro rfl
        exact absurd hmeta (by decide)
      have hparen : c ≠ '(' := by
        rintro rfl
        exact absurd hmeta (by decide)
      show readPattern (c :: (escapePattern cs ++ rest)) = _
      rw [readPattern, hmeta, ih]
      · simp [Function.comp_def]
      all_goals simp_all

/-- The parts of the pattern of a term. -/
def wordParts (term : List Char) : List PatternPart :=
  .noWordBefore :: (term.map .character ++ [.noWordAfter])

/-- The pattern of a term is read as the characters of the term between the two conditions. -/
theorem readPattern_wordPattern (term : String) :
    readPattern (wordPattern term).toList = some (wordParts term.toList) := by
  have hpattern : (wordPattern term).toList =
      "(?<!\\w)".toList ++ (escapePattern term.toList ++ "(?!\\w)".toList) := by
    simp [wordPattern]
  have hafter : readPattern "(?!\\w)".toList = some [.noWordAfter] := by decide +kernel
  rw [hpattern]
  show (readPattern (escapePattern term.toList ++ "(?!\\w)".toList)).map _ = _
  rw [readPattern_escapePattern, hafter]
  rfl

/-- The characters of a term match at the front of a text that begins with them. -/
private theorem matchLength_characters (term : List Char) (before : Option Char)
    (rest : List Char) :
    matchLength (term.map .character ++ [.noWordAfter]) before rest =
      if term.isPrefixOf rest && !isWordAt (rest.drop term.length).head? then some term.length
      else none := by
  induction term generalizing before rest with
  | nil => cases h : isWordAt rest.head? <;> simp [matchLength, h]
  | cons c term ih =>
    cases rest with
    | nil => simp [matchLength]
    | cons d rest =>
      rw [List.map_cons, List.cons_append, matchLength, ih]
      by_cases h : c = d
      · subst h
        simp only [if_true, List.isPrefixOf, beq_self_eq_true, Bool.true_and, List.length_cons,
          List.drop_succ_cons]
        split <;> rfl
      · simp [h]

/-- The parts of the pattern of a term match where the term occurs as whole words, and as far as the
term goes. -/
theorem matchLength_wordParts (term : List Char) (before : Option Char) (rest : List Char) :
    matchLength (wordParts term) before rest =
      if occursHere .wholeWords term before rest then some term.length else none := by
  rw [wordParts, matchLength, matchLength_characters, occursHere, Placement.allows]
  cases isWordAt before <;> simp

/-- The matches of the parts are the occurrences that are taken. -/
private theorem partSpansFrom_wordParts (term : List Char) (before : Option Char)
    (position skip : Nat) (rest : List Char) :
    partSpansFrom (wordParts term) before position skip rest =
      (matchStartsFrom .wholeWords term before position skip rest).map
        fun start => (start, start + term.length) := by
  -- both go along the text in the same steps
  induction rest generalizing before position skip with
  | nil =>
    rw [partSpansFrom, matchStartsFrom, matchLength_wordParts]
    cases occursHere .wholeWords term before [] <;> rfl
  | cons c rest ih =>
    cases skip with
    | succ skip => rw [partSpansFrom, matchStartsFrom, ih]
    | zero =>
      rw [partSpansFrom, matchStartsFrom, matchLength_wordParts]
      cases occursHere .wholeWords term before (c :: rest) with
      | true => simp [ih]
      | false => simp [ih]

/-- The matches of the pattern of a term are the occurrences that are taken as whole words. -/
theorem patternSpans_wordPattern (term text : String) :
    patternSpans (wordPattern term) text =
      some (matchSpans .wholeWords term.toList text.toList) := by
  rw [patternSpans, readPattern_wordPattern, Option.map_some, partSpansFrom_wordParts]
  rfl

example :
    patternSpans (wordPattern "c++") "c++ c+++ c++x (c++)" = some [(0, 3), (4, 7), (15, 18)] := by
  decide +kernel

end TermSearch.Text
