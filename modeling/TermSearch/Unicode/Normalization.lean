import TermSearch.Unicode.CombiningClass
import TermSearch.Unicode.Composition

/-!
# Canonical Normalization

The composed normal form of a text: every character is fully decomposed, the marks of each
starter are put into the order of their classes, and each starter then takes up the
characters after it that compose with it.

## Main definitions

- `sortMarks`: the canonical order of marks.
- `composeMarks`: composition of a text whose marks are in order.
- `compose`: the composed normal form of a text.
-/

namespace TermSearch.Unicode

/-- Puts a character before a text in canonical order: it moves behind the marks of lower
class at the front. -/
def placeMark (c : Char) : List Char → List Char
  | [] => [c]
  | d :: rest =>
    if !isStarter d && combiningClass d < combiningClass c then d :: placeMark c rest
    else c :: d :: rest

/-- The text with the marks after each starter in the order of their classes; marks of one
class keep their order. -/
def sortMarks : List Char → List Char
  | [] => []
  | c :: rest => placeMark c (sortMarks rest)

/-- The decomposed normal form of a text. -/
def decomposeText (text : List Char) : List Char :=
  sortMarks (text.flatMap decompose)

/-- Whether a character is cut off from the starter before it by the marks in between, the
last of which comes first: one of them has its class or a higher one. -/
def isBlocked (held : List Char) (c : Char) : Bool :=
  match held with
  | [] => false
  | mark :: _ => combiningClass c ≤ combiningClass mark

/-- Composes what follows `starter`. The marks in `held`, last first, stand between the
starter and the text that is left, and did not compose. -/
def composeAfter (starter : Char) (held : List Char) : List Char → List Char
  | [] => starter :: held.reverse
  | c :: rest =>
    match if isBlocked held c then none else compose? starter c with
    | some composite => composeAfter composite held rest
    | none =>
      if isStarter c then starter :: held.reverse ++ composeAfter c [] rest
      else composeAfter starter (c :: held) rest

/-- Composes a text whose marks are in canonical order. -/
def composeMarks : List Char → List Char
  | [] => []
  | c :: rest => if isStarter c then composeAfter c [] rest else c :: composeMarks rest

/-- The composed normal form of a text. -/
def compose (text : List Char) : List Char :=
  composeMarks (decomposeText text)

end TermSearch.Unicode
