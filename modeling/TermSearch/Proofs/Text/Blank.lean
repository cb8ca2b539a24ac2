import Mathlib.Data.List.DropRight
import TermSearch.Text.Blank

/-!
# Trimming

What is left of a text without the white space at its ends. A text is white space, then what is left
of it, and then white space again, where what is left has no white space at its own ends. There is
only one way to take a text apart like this.

## Main definitions

- `Text.IsTrimmed`: a text has no white space at its ends.
- `Text.IsTrimOf`: a text is another one without the white space that surrounds it.

## Main statements

- `Text.trim_eq_iff`: trimming leaves the only such text.
- `Text.isEmpty_trim`: nothing is left of a text where it is blank.
-/

namespace TermSearch.Text

/-- No white space stands at an end of the text. An empty text has no ends. -/
structure IsTrimmed (s : String) : Prop where
  head : ∀ c, s.toList.head? = some c → isBlankChar c = false
  last : ∀ c, s.toList.getLast? = some c → isBlankChar c = false

/-- The first text is the second one without the white space that surrounds it. -/
structure IsTrimOf (t s : String) : Prop where
  isTrimmed : IsTrimmed t
  surrounded : ∃ before after, s.toList = before ++ t.toList ++ after ∧
    (∀ c ∈ before, isBlankChar c = true) ∧ ∀ c ∈ after, isBlankChar c = true

/-- A text that is not empty and has no white space at its ends is not blank. -/
theorem IsTrimmed.isBlank_eq {s : String} (h : IsTrimmed s) (hne : s.isEmpty = false) :
    isBlank s = false := by
  cases hs : s.toList with
  | nil =>
    have hempty : s.isEmpty = true := by simpa using hs
    exact absurd hempty (by simp [hne])
  | cons c rest =>
    have hc : isBlankChar c = false := h.head c (by rw [hs, List.head?_cons])
    simp [isBlank, hs, hc]

/-- Trimming takes away white space in front and behind, and leaves none at the ends. -/
theorem isTrimOf_trim (s : String) : IsTrimOf (trim s) s := by
  have htrim : (trim s).toList =
      (s.toList.dropWhile isBlankChar).rdropWhile isBlankChar := String.toList_ofList
  refine ⟨⟨fun c hc => ?_, fun c hc => ?_⟩, s.toList.takeWhile isBlankChar,
    (s.toList.dropWhile isBlankChar).rtakeWhile isBlankChar, ?_,
    fun c => List.mem_takeWhile_imp, fun c => List.mem_rtakeWhile_imp⟩
  · -- the first character that is left is the one at which trimming in front came to its end
    obtain ⟨tail, htail⟩ := List.rdropWhile_prefix isBlankChar (s.toList.dropWhile isBlankChar)
    have hfirst : (s.toList.dropWhile isBlankChar).head? = some c := by
      rw [← htail, ← htrim, List.head?_append, hc, Option.some_or]
    have hnot := List.head?_dropWhile_not isBlankChar s.toList
    rw [hfirst] at hnot
    exact hnot
  · rw [htrim] at hc
    have hne := List.ne_nil_of_mem (List.mem_of_getLast? hc)
    have hnot := List.rdropWhile_last_not isBlankChar _ hne
    rw [List.getLast?_eq_some_getLast hne] at hc
    obtain rfl := Option.some.inj hc
    simpa using hnot
  · rw [htrim, List.append_assoc, List.rdropWhile_append_rtakeWhile,
      List.takeWhile_append_dropWhile]

/-- White space around characters that have none at their ends is trimmed away. -/
theorem trimChars_of_surrounded {before cs after : List Char}
    (hbefore : ∀ c ∈ before, isBlankChar c = true) (hafter : ∀ c ∈ after, isBlankChar c = true)
    (hhead : ∀ c, cs.head? = some c → isBlankChar c = false)
    (hlast : ∀ c, cs.getLast? = some c → isBlankChar c = false) :
    trimChars (before ++ cs ++ after) = cs := by
  show ((before ++ cs ++ after).dropWhile isBlankChar).rdropWhile isBlankChar = cs
  rw [List.append_assoc, List.dropWhile_append_of_pos hbefore]
  cases cs with
  | nil =>
    rw [List.nil_append, List.dropWhile_eq_nil_iff.mpr hafter, List.rdropWhile_nil]
  | cons first rest =>
    -- trimming in front stops at the first character, and trimming behind at the last one
    have hfirst : isBlankChar first = false := hhead first rfl
    have hback : ((first :: rest) ++ after).rdropWhile isBlankChar =
        (first :: rest).rdropWhile isBlankChar := by
      rw [List.rdropWhile, List.reverse_append,
        List.dropWhile_append_of_pos fun c hc => hafter c (List.mem_reverse.mp hc), List.rdropWhile]
    have hkept : ∀ hne : first :: rest ≠ [],
        ¬ isBlankChar ((first :: rest).getLast hne) = true := by
      intro hne
      rw [hlast _ (List.getLast?_eq_some_getLast hne)]
      exact Bool.false_ne_true
    rw [List.cons_append, List.dropWhile_cons_of_neg (by simp [hfirst]), ← List.cons_append, hback]
    exact List.rdropWhile_eq_self_iff.mpr hkept

/-- Trimming leaves the only text that is the given one without the white space around it. -/
theorem trim_eq_iff {s t : String} : trim s = t ↔ IsTrimOf t s := by
  constructor
  · rintro rfl
    exact isTrimOf_trim s
  · rintro ⟨⟨hhead, hlast⟩, before, after, hs, hbefore, hafter⟩
    rw [trim, hs, trimChars_of_surrounded hbefore hafter hhead hlast, String.ofList_toList]

/-- A text without white space at its ends is left as it is. -/
theorem trim_eq_self {s : String} (h : IsTrimmed s) : trim s = s :=
  trim_eq_iff.mpr ⟨h, [], [], by simp, by simp, by simp⟩

/-- Nothing is left of a text by trimming where it is blank. -/
theorem isEmpty_trim (s : String) : (trim s).isEmpty = isBlank s := by
  obtain ⟨htrimmed, before, after, hs, hbefore, hafter⟩ := isTrimOf_trim s
  cases hempty : (trim s).isEmpty with
  | true =>
    have hnil : (trim s).toList = [] := by simpa using hempty
    rw [isBlank, hs, hnil, List.append_nil, List.all_append, List.all_eq_true.mpr hbefore,
      List.all_eq_true.mpr hafter]
    rfl
  | false =>
    have hsome := htrimmed.isBlank_eq hempty
    rw [isBlank] at hsome
    rw [isBlank, hs, List.all_append, List.all_append, hsome, Bool.and_false, Bool.false_and]

end TermSearch.Text
