import TermSearch.Text.Placement

/-!
# Occurrences of a Term

Where a term occurs in a text, under a placement. The places are found by going along the text
once, with the character in front of the current place at hand.

Occurrences that overlap are not counted twice: they are taken from left to right, each one
where the one before it has ended or later.

## Main definitions

- `occurs`: whether a term occurs in a text at all.
- `matchStarts`: the places of the occurrences that are taken.
- `count`: their number, which is zero for the empty term.
-/

namespace TermSearch.Text

/-- Whether the term occurs at the front of `rest`, where `before` is the character in front
of it. -/
def occursHere (placement : Placement) (term : List Char) (before : Option Char)
    (rest : List Char) : Bool :=
  term.isPrefixOf rest && placement.allows before (rest.drop term.length).head?

/-- Whether the term occurs somewhere in `rest`. -/
def occursFrom (placement : Placement) (term : List Char) :
    Option Char → List Char → Bool
  | before, [] => occursHere placement term before []
  | before, c :: rest =>
    occursHere placement term before (c :: rest) || occursFrom placement term (some c) rest

/-- Whether the term occurs in the text. -/
def occurs (placement : Placement) (term text : List Char) : Bool :=
  occursFrom placement term none text

/-- The places of the occurrences taken from `rest`, which begins at `position`; the first
`skip` characters belong to an occurrence already taken. -/
def matchStartsFrom (placement : Placement) (term : List Char) :
    Option Char → Nat → Nat → List Char → List Nat
  | before, position, _, [] =>
    if occursHere placement term before [] then [position] else []
  | _, position, skip + 1, c :: rest =>
    matchStartsFrom placement term (some c) (position + 1) skip rest
  | before, position, 0, c :: rest =>
    if occursHere placement term before (c :: rest) then
      position :: matchStartsFrom placement term (some c) (position + 1) (term.length - 1) rest
    else matchStartsFrom placement term (some c) (position + 1) 0 rest

/-- The places of the occurrences of the term that are taken from left to right. -/
def matchStarts (placement : Placement) (term text : List Char) : List Nat :=
  matchStartsFrom placement term none 0 0 text

/-- The beginnings and ends of the occurrences that are taken. -/
def matchSpans (placement : Placement) (term text : List Char) : List (Nat × Nat) :=
  (matchStarts placement term text).map fun start => (start, start + term.length)

/-- The number of occurrences that are taken; the empty term counts as occurring nowhere. -/
def count (placement : Placement) (term text : List Char) : Nat :=
  if term.isEmpty then 0 else (matchStarts placement term text).length

example : matchSpans .anywhere "aa".toList "aaaaa".toList = [(0, 2), (2, 4)] := by
  decide +kernel
example : matchSpans .wholeWords "a b".toList "a b a b, a bc".toList = [(0, 3), (4, 7)] := by
  decide +kernel

end TermSearch.Text
