import TermSearch.Unicode.RangeMap

/-!
# Case Changes

How a range of characters changes under a case mapping: by moving along the code points,
every character of the range or every other one, or by being spelled out as a sequence.
-/

namespace TermSearch.Unicode

/-- What a case mapping does to the characters of one range. -/
inductive CaseChange where
  /-- Each `stride`-th character of the range, from the first on, moves by `distance`. -/
  | shift (stride : Nat) (distance : Int)
  /-- The character is replaced by a sequence of characters. -/
  | spell (codes : List Nat)

namespace CaseChange

/-- The change of the character `c` that stands at `offset` in the range. -/
def apply (change : CaseChange) (offset : Nat) (c : Char) : List Char :=
  match change with
  | shift stride distance =>
    if offset % stride = 0 then [Char.ofNat (c.toNat + distance).toNat] else [c]
  | spell codes => codes.map Char.ofNat

end CaseChange

/-- The image of a character: what its range says, or the character itself. -/
def changeCase (changes : RangeMap CaseChange) (c : Char) : List Char :=
  match changes.find? c.toNat with
  | some (offset, change) => change.apply offset c
  | none => [c]

end TermSearch.Unicode
