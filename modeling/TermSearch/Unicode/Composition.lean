import TermSearch.Unicode.Decomposition

/-!
# Canonical Composition

Which pairs of characters compose to one, in Unicode 14.0: the pairs of the canonical
decompositions, apart from the characters that composition leaves out.
-/

namespace TermSearch.Unicode

/-- Ranges in which every character that is the same as a pair stays decomposed. -/
def compositionExclusions : List (Nat × Nat) := [
  (0x344, 0x344), (0x958, 0x95F), (0x9DC, 0xA5E), (0xB5C, 0xB5D), (0xF43, 0xFB9),
  (0x2ADC, 0x2ADC), (0xFB1D, 0xFB4E), (0x1D15E, 0x1D1C0)]

/-- Whether composition leaves the character out. -/
def isCompositionExcluded (n : Nat) : Bool :=
  compositionExclusions.any fun (first, last) => first ≤ n && n ≤ last

/-- The characters that may stand second in a pair that composes. -/
def joiners : List Nat := [
  0x300, 0x301, 0x302, 0x303, 0x304, 0x306, 0x307, 0x308, 0x309, 0x30A, 0x30B, 0x30C, 0x30F,
  0x311, 0x313, 0x314, 0x31B, 0x323, 0x324, 0x325, 0x326, 0x327, 0x328, 0x32D, 0x32E, 0x330,
  0x331, 0x338, 0x342, 0x345, 0x653, 0x654, 0x655, 0x93C, 0x9BE, 0x9D7, 0xB3E, 0xB56, 0xB57,
  0xBBE, 0xBD7, 0xC56, 0xCC2, 0xCD5, 0xCD6, 0xD3E, 0xD57, 0xDCA, 0xDCF, 0xDDF, 0x102E, 0x1B35,
  0x3099, 0x309A, 0x110BA, 0x11127, 0x1133E, 0x11357, 0x114B0, 0x114BA, 0x114BD, 0x115AF,
  0x11930]

/-- For each joiner, the characters that it composes with and the results. -/
@[irreducible] def compositeMap : RangeMap (List (Nat × Nat)) :=
  .ofList (joiners.map fun joiner =>
    (joiner, joiner, canonicalPairs.filterMap fun (n, first, second) =>
      if second = joiner ∧ !isCompositionExcluded n then some (first, n) else none))

/-- The character that a pair composes to. -/
def compose? (a b : Char) : Option Char :=
  match Hangul.compose? a.toNat b.toNat with
  | some n => some (Char.ofNat n)
  | none =>
    ((compositeMap.find? b.toNat).bind fun (_, composites) => composites.lookup a.toNat).map
      Char.ofNat

end TermSearch.Unicode
