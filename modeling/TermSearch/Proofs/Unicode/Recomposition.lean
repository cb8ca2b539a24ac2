import TermSearch.Proofs.Unicode.Hangul
import TermSearch.Proofs.Unicode.MarkOrder

/-!
# Composing a Composed Text

Composition changes the spelling of a text and not the text: decomposed again, a composed text
is what it was composed from, with its marks in order. So texts that decompose to the same
compose to the same, and composing a composed text leaves it as it is.

The tables bear out two facts for that. The full decomposition of a character has no part that
can be decomposed, so three equations are always enough. And a composite decomposes to what the
first character of its pair does, followed by the second one.

## Main definitions

- `isFinal`: a code point is the same as no other ones.
- `endsWithin`: so many equations lead to code points of this sort.
- `IsEquation`: what the table of pairs says of an entry.

## Main statements

- `decompose_of_mem_decompose`: the parts of a character do not decompose.
- `decompose_of_compose?`: what a composite decomposes to.
- `decomposeText_compose`: composition leaves the decomposed normal form.
- `compose_compose`: composition leaves what is composed.
-/

namespace TermSearch.Unicode

/-! ## Equations -/

/-- Whether a code point is the same as no other ones. -/
def isFinal (n : Nat) : Bool :=
  (Hangul.decompose? n).isNone && (pair? n).isNone && (singleton? n).isNone

/-- Whether following at most `depth` equations from the code point `n` leads to code points
that are the same as no other ones. Hangul syllables have no equations. -/
def endsWithin : Nat → Nat → Bool
  | 0, n => isFinal n
  | depth + 1, n => isFinal n || (Hangul.decompose? n).isNone &&
    match pair? n with
    | some (first, second) => endsWithin depth first && isFinal second
    | none =>
      match singleton? n with
      | some target => endsWithin depth target
      | none => false

theorem isFinal_iff {n : Nat} :
    isFinal n = true ↔ Hangul.decompose? n = none ∧ pair? n = none ∧ singleton? n = none := by
  simp [isFinal, and_assoc]

/-- No equation is followed from a code point that is the same as no other ones. -/
theorem expand_of_isFinal {n : Nat} (h : isFinal n = true) (depth : Nat) (tail : List Nat) :
    expand depth n tail = n :: tail := by
  obtain ⟨-, hpair, hsingleton⟩ := isFinal_iff.mp h
  cases depth with
  | zero => rfl
  | succ depth => rw [expand, hpair, hsingleton]

/-- The second characters met before are left behind the others. -/
theorem expand_append (depth n : Nat) (tail : List Nat) :
    expand depth n tail = expand depth n [] ++ tail := by
  induction depth generalizing n tail with
  | zero => rfl
  | succ depth ih =>
    rw [expand, expand]
    split
    · next first second hpair => rw [ih, ih first [second], List.append_assoc]; rfl
    · split
      · next target hsingleton => exact ih target tail
      · rfl

theorem hangul_of_endsWithin {depth n : Nat} (h : endsWithin depth n = true) :
    Hangul.decompose? n = none := by
  cases depth with
  | zero => exact (isFinal_iff.mp h).1
  | succ depth =>
    rw [endsWithin, Bool.or_eq_true] at h
    rcases h with hfinal | h
    · exact (isFinal_iff.mp hfinal).1
    · exact Option.isNone_iff_eq_none.mp (Bool.and_eq_true_iff.mp h).1

/-- One more equation makes no difference where there are none left. -/
theorem expand_succ_of_endsWithin {depth n : Nat} (h : endsWithin depth n = true)
    (tail : List Nat) :
    expand (depth + 1) n tail = expand depth n tail := by
  -- equation by equation: the first one leads to where one less is enough
  induction depth generalizing n tail with
  | zero => rw [expand_of_isFinal h, expand_of_isFinal h]
  | succ depth ih =>
    rw [endsWithin, Bool.or_eq_true] at h
    rcases h with hfinal | h
    · rw [expand_of_isFinal hfinal, expand_of_isFinal hfinal]
    · rw [Bool.and_eq_true] at h
      rw [expand, expand]
      split
      · next first second hpair =>
        rw [hpair] at h
        exact ih (Bool.and_eq_true_iff.mp h.2).1 _
      · next hpair =>
        rw [hpair] at h
        split
        · next target hsingleton =>
          rw [hsingleton] at h
          exact ih h.2 tail
        · rfl

/-- Where the equations end within the depth, they lead to final code points. -/
theorem isFinal_of_mem_expand {depth n : Nat} {tail : List Nat} (h : endsWithin depth n = true)
    (htail : ∀ m ∈ tail, isFinal m = true) : ∀ m ∈ expand depth n tail, isFinal m = true := by
  -- the second characters of pairs are final, and the tail is made of them
  induction depth generalizing n tail with
  | zero => exact List.forall_mem_cons.mpr ⟨h, htail⟩
  | succ depth ih =>
    rw [endsWithin, Bool.or_eq_true] at h
    rcases h with hfinal | h
    · rw [expand_of_isFinal hfinal]
      exact List.forall_mem_cons.mpr ⟨hfinal, htail⟩
    · rw [Bool.and_eq_true] at h
      rw [expand]
      split
      · next first second hpair =>
        rw [hpair, Bool.and_eq_true] at h
        exact ih h.2.1 (List.forall_mem_cons.mpr ⟨h.2.2, htail⟩)
      · next hpair =>
        rw [hpair] at h
        split
        · next target hsingleton =>
          rw [hsingleton] at h
          exact ih h.2 htail
        · next hsingleton =>
          rw [hsingleton] at h
          exact Bool.noConfusion h.2

/-! ## The tables -/

/-- Whether a number is in one of the intervals, each up to, and without, its end. -/
def isWithin (intervals : List (Nat × Nat)) (n : Nat) : Bool :=
  intervals.any fun interval => Nat.ble interval.1 n && Nat.blt n interval.2

theorem isWithin_of_mem {intervals : List (Nat × Nat)} {first stop n : Nat}
    (h : (first, stop) ∈ intervals) (hfirst : first ≤ n) (hstop : n < stop) :
    isWithin intervals n = true :=
  List.any_eq_true.mpr
    ⟨_, h, Bool.and_eq_true_iff.mpr ⟨Nat.ble_eq.mpr hfirst, Nat.blt_eq.mpr hstop⟩⟩

theorem exists_mem_of_isWithin {intervals : List (Nat × Nat)} {n : Nat}
    (h : isWithin intervals n = true) :
    ∃ interval ∈ intervals, interval.1 ≤ n ∧ n < interval.2 := by
  obtain ⟨interval, hmem, hwithin⟩ := List.any_eq_true.mp h
  rw [Bool.and_eq_true, Nat.ble_eq, Nat.blt_eq] at hwithin
  exact ⟨interval, hmem, hwithin⟩

/-- Nothing is found at the numbers of intervals that a tree has not. -/
theorem RangeMap.find?_of_isWithin {α : Type} {m : RangeMap α} {intervals : List (Nat × Nat)}
    {n : Nat} (h : ∀ interval ∈ intervals, m.avoids interval.1 interval.2 = true)
    (hn : isWithin intervals n = true) : m.find? n = none := by
  obtain ⟨interval, hmem, hfirst, hstop⟩ := exists_mem_of_isWithin hn
  exact find?_of_avoids (h interval hmem) hfirst hstop

/-- Intervals, beside the Hangul syllables, of code points that neither table has: the basic
letters and the marks that most pairs are made of, the consonants and vowels of Hangul, and most
ideographs. -/
def plainIntervals : List (Nat × Nat) := [
  (0, 0xC0), (0x234, 0x340), (Hangul.firstLeading, Hangul.noTrailing + Hangul.endingCount),
  (0x3400, 0xA000), (0x20000, 0x2F800)]

theorem isFinal_of_isWithin {n : Nat} (h : isWithin plainIntervals n = true) :
    isFinal n = true := by
  have hpairs : ∀ interval ∈ plainIntervals, pairMap.avoids interval.1 interval.2 = true := by
    decide +kernel
  have hsingletons : ∀ interval ∈ plainIntervals,
      singletonMap.avoids interval.1 interval.2 = true := by
    decide +kernel
  have hsyllables : ∀ interval ∈ plainIntervals, interval.2 ≤ Hangul.firstSyllable ∨
      Hangul.firstSyllable + Hangul.leadingCount * Hangul.vowelCount * Hangul.endingCount ≤
        interval.1 := by
    decide
  have hpair := RangeMap.find?_of_isWithin hpairs h
  have hsingleton := RangeMap.find?_of_isWithin hsingletons h
  refine isFinal_iff.mpr ⟨?_, by rw [pair?, hpair]; rfl, by rw [singleton?, hsingleton]; rfl⟩
  obtain ⟨interval, hmem, hfirst, hstop⟩ := exists_mem_of_isWithin h
  have hbeside := hsyllables interval hmem
  rw [Hangul.decompose?, if_neg]
  omega

/-- The consonants and vowels of Hangul syllables do not decompose. -/
theorem isFinal_of_jamo {n : Nat} (hfirst : Hangul.firstLeading ≤ n)
    (hlast : n < Hangul.noTrailing + Hangul.endingCount) : isFinal n = true :=
  isFinal_of_isWithin (isWithin_of_mem (by decide) hfirst hlast)

theorem endsWithin_of_isWithin {n : Nat} (h : isWithin plainIntervals n = true) (depth : Nat) :
    endsWithin (depth + 1) n = true := by
  rw [endsWithin, isFinal_of_isWithin h, Bool.true_or]

/-- What the table of pairs says of an entry: the search finds it; the composite is a character,
and no Hangul syllable; the first character of the pair is at most two equations away from its
full decomposition, and the second one does not decompose. -/
structure IsEquation (n first second : Nat) : Prop where
  found : pair? n = some (first, second)
  valid : n.isValidChar
  hangul : Hangul.decompose? n = none
  first : endsWithin 2 first = true
  second : isFinal second = true

private theorem sound_of_canonicalPairs : ∀ entry ∈ canonicalPairs,
    (pair? entry.1 == some entry.2 && decide entry.1.isValidChar &&
      (Hangul.decompose? entry.1).isNone &&
      (isWithin plainIntervals entry.2.1 || endsWithin 2 entry.2.1) &&
      (isWithin plainIntervals entry.2.2 || isFinal entry.2.2)) = true := by
  decide +kernel

theorem isEquation_of_mem {n first second : Nat} (h : (n, first, second) ∈ canonicalPairs) :
    IsEquation n first second := by
  have hentry := sound_of_canonicalPairs _ h
  simp only [Bool.and_eq_true, Bool.or_eq_true, beq_iff_eq, decide_eq_true_eq,
    Option.isNone_iff_eq_none] at hentry
  obtain ⟨⟨⟨⟨hfound, hvalid⟩, hhangul⟩, hfirst⟩, hsecond⟩ := hentry
  exact ⟨hfound, hvalid, hhangul, hfirst.elim (endsWithin_of_isWithin · 1) id,
    hsecond.elim isFinal_of_isWithin id⟩

/-- A character that another one is the same as is at most two equations away from its full
decomposition. -/
theorem endsWithin_of_singleton? {n target : Nat} (h : singleton? n = some target) :
    endsWithin 2 target = true := by
  have hranges : ∀ range ∈ canonicalSingletons,
      (range.2.2.all fun m => isWithin plainIntervals m || endsWithin 2 m) = true := by
    decide +kernel
  obtain ⟨range, hrange, -, htarget⟩ := exists_mem_of_singleton? h
  have hthis := List.all_eq_true.mp (hranges range hrange) target htarget
  exact (Bool.or_eq_true_iff.mp hthis).elim (endsWithin_of_isWithin · 1) id

/-! ## Decomposition -/

/-- A final code point is that of a character that does not decompose; what is no code point of a
character stands for the null character. -/
theorem decompose_ofNat {n : Nat} (h : isFinal n = true) :
    decompose (Char.ofNat n) = [Char.ofNat n] := by
  by_cases hvalid : n.isValidChar
  · rw [decompose, toNat_ofNat hvalid, (isFinal_iff.mp h).1, expand_of_isFinal h]
    rfl
  · rw [Char.ofNat, dif_neg hvalid]
    exact congrArg (List.map Char.ofNat) (expand_of_isFinal (isFinal_of_isWithin (by decide)) 3 [])

theorem decompose_of_isFinal {c : Char} (h : isFinal c.toNat = true) : decompose c = [c] := by
  have hself := decompose_ofNat h
  rwa [Char.ofNat_toNat] at hself

/-- A character is a syllable, or is the same as a pair or as another one, or it has no part but
itself. -/
theorem decompose_cases (c : Char) :
    (∃ parts, Hangul.decompose? c.toNat = some parts) ∨ (∃ parts, pair? c.toNat = some parts) ∨
      (∃ target, singleton? c.toNat = some target) ∨ decompose c = [c] := by
  cases hfinal : isFinal c.toNat with
  | true => exact .inr (.inr (.inr (decompose_of_isFinal hfinal)))
  | false =>
    simp only [isFinal, Bool.and_eq_false_iff, Option.isNone_eq_false_iff,
      Option.isSome_iff_exists] at hfinal
    obtain (hhangul | hpair) | hsingleton := hfinal
    · exact .inl hhangul
    · exact .inr (.inl hpair)
    · exact .inr (.inr (.inl hsingleton))

/-- The parts of a character do not decompose. -/
theorem decompose_of_mem_decompose {c d : Char} (h : d ∈ decompose c) : decompose d = [d] := by
  rw [decompose] at h
  split at h
  · next parts hparts =>
    obtain ⟨m, hm, rfl⟩ := List.mem_map.mp h
    have hjamo := Hangul.bounds_of_mem_decompose? hparts hm
    exact decompose_ofNat (isFinal_of_jamo hjamo.1 hjamo.2)
  · next hhangul =>
    obtain ⟨m, hm, rfl⟩ := List.mem_map.mp h
    refine decompose_ofNat (isFinal_of_mem_expand ?_ (by simp) m hm)
    -- the first equation, if there is one, is in the tables
    rw [expansionDepth, endsWithin, hhangul]
    cases hpair : pair? c.toNat with
    | some parts =>
      have hequation := isEquation_of_mem (mem_of_pair? hpair)
      simp [hequation.first, hequation.second]
    | none =>
      cases hsingleton : singleton? c.toNat with
      | some target => simp [endsWithin_of_singleton? hsingleton]
      | none => simp [isFinal, hhangul, hpair, hsingleton]

/-- A composite decomposes to what the first character of its pair does, and the second one. -/
theorem decompose_of_compose? {a b c : Char} (h : compose? a b = some c) :
    decompose c = decompose a ++ [b] := by
  rw [compose?] at h
  split at h
  · next n hhangul =>
    obtain rfl := Option.some.inj h
    rcases Hangul.decompose?_of_compose? hhangul with ⟨hleading, hparts⟩ | ⟨parts, ha, hparts⟩
    · have hfinal : isFinal a.toNat = true := by
        simp only [Hangul.isLeading, Bool.and_eq_true, decide_eq_true_eq] at hleading
        refine isFinal_of_jamo hleading.1 (Nat.lt_trans hleading.2 (by decide))
      rw [decompose_of_isFinal hfinal, decompose,
        toNat_ofNat (Hangul.isValidChar_of_decompose? hparts), hparts]
      simp [Char.ofNat_toNat]
    · rw [decompose, decompose, toNat_ofNat (Hangul.isValidChar_of_decompose? hparts), hparts, ha]
      simp [Char.ofNat_toNat]
  · rw [Option.map_eq_some_iff] at h
    obtain ⟨n, hn, rfl⟩ := h
    rw [Option.bind_eq_some_iff] at hn
    obtain ⟨⟨offset, composites⟩, hfind, hlookup⟩ := hn
    obtain ⟨before, after, rfl, -⟩ := List.lookup_eq_some_iff.mp hlookup
    have hentry := (mem_of_find?_compositeMap hfind).2 a.toNat n (by simp)
    have hequation := isEquation_of_mem hentry
    -- one equation leads to the pair, and those from its first character end in time
    rw [decompose, decompose, toNat_ofNat hequation.valid, hequation.hangul,
      hangul_of_endsWithin hequation.first, expansionDepth, expand, hequation.found]
    dsimp only
    rw [expand_append, expand_succ_of_endsWithin hequation.first, List.map_append,
      List.map_singleton, Char.ofNat_toNat]

/-! ## Composition -/

/-- Decomposed again, what is composed behind a starter is what it was composed from. -/
theorem sortMarks_composeAfter {starter : Char} {held text : List Char} (h : Held held text)
    (horder : InOrder text) (hheld : ∀ d ∈ held, decompose d = [d])
    (htext : ∀ c ∈ text, decompose c = [c]) :
    sortMarks ((composeAfter starter held text).flatMap decompose) =
      sortMarks (decompose starter ++ (held.reverse ++ text)) := by
  have hreverse : ∀ marks : List Char, (∀ d ∈ marks, decompose d = [d]) →
      marks.reverse.flatMap decompose = marks.reverse := by
    intro marks hmarks
    rw [List.flatMap_congr fun d hd => hmarks d (List.mem_reverse.mp hd), List.flatMap_singleton']
  -- as the text is gone through, with the starter and the marks held back as they are by then
  induction text generalizing starter held with
  | nil => rw [composeAfter, List.flatMap_cons, hreverse held hheld, List.append_nil]
  | cons c rest ih =>
    obtain ⟨hc, hrest⟩ := List.forall_mem_cons.mp htext
    have horder' : InOrder rest := (List.isChain_cons.mp horder).2
    rw [composeAfter]
    split
    · -- the mark is taken up from behind those held back, and moves in front of them
      next composite hcomposite =>
      obtain ⟨hblocked, hpair⟩ := Option.ite_none_left_eq_some.mp hcomposite
      have hlt := h.lt_of_not_isBlocked (Bool.eq_false_iff.mpr hblocked)
      have hheld' : Held held rest :=
        ⟨h.mark, h.sorted, Held.before_next (fun d hd => Nat.le_of_lt (hlt d hd)) horder⟩
      have hmove :
          sortMarks (held.reverse ++ c :: rest) = sortMarks (c :: (held.reverse ++ rest)) :=
        sortMarks_move (fun d hd => ⟨h.mark d (List.mem_reverse.mp hd),
          hlt d (List.mem_reverse.mp hd)⟩) rest
      rw [ih hheld' horder' hheld hrest, decompose_of_compose? hpair, List.append_assoc]
      exact sortMarks_append_congr hmove.symm _
    · split
      · -- the next starter takes over, and nothing is held back yet
        have hnone : Held [] rest := ⟨by simp, List.Pairwise.nil, by simp⟩
        have hnext := @ih c [] hnone horder' (by simp) hrest
        rw [hc] at hnext
        rw [List.cons_append, List.flatMap_cons, List.flatMap_append, hreverse held hheld]
        exact sortMarks_append_congr (sortMarks_append_congr hnext _) _
      · next hmark =>
        have hcons := h.cons (Bool.eq_false_iff.mpr hmark) horder
        rw [ih hcons horder' (List.forall_mem_cons.mpr ⟨hc, hheld⟩) hrest, List.reverse_cons,
          List.append_assoc]
        rfl

/-- Decomposed again, a composed text is what it was composed from. -/
theorem sortMarks_composeMarks {text : List Char} (horder : InOrder text)
    (htext : ∀ c ∈ text, decompose c = [c]) :
    sortMarks ((composeMarks text).flatMap decompose) = text := by
  induction text with
  | nil => rfl
  | cons c rest ih =>
    obtain ⟨hc, hrest⟩ := List.forall_mem_cons.mp htext
    have horder' : InOrder rest := (List.isChain_cons.mp horder).2
    rw [composeMarks]
    split
    · have hnone : Held [] rest := ⟨by simp, List.Pairwise.nil, by simp⟩
      rw [sortMarks_composeAfter hnone horder' (by simp) hrest, hc]
      exact horder.sortMarks_eq
    · -- marks in front of all starters stay as they are
      rw [List.flatMap_cons, hc, List.singleton_append, sortMarks, ih horder' hrest]
      have hcons := horder.sortMarks_eq
      rwa [sortMarks, horder'.sortMarks_eq] at hcons

/-- Composition leaves the decomposed normal form of a text. -/
theorem decomposeText_compose (text : List Char) :
    decomposeText (compose text) = decomposeText text := by
  refine sortMarks_composeMarks (inOrder_sortMarks _) fun c hc => ?_
  obtain ⟨d, -, hd⟩ := List.mem_flatMap.mp (mem_sortMarks.mp hc)
  exact decompose_of_mem_decompose hd

/-- Composition leaves what is composed. -/
theorem compose_compose (text : List Char) : compose (compose text) = compose text := by
  rw [compose, decomposeText_compose, compose]

end TermSearch.Unicode
