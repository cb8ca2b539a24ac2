import TermSearch.Value.Decimal

/-!
# Numerals

How numbers are laid out in the lines of a log. A numeral has a sign, perhaps a mark of its base,
and digits behind them. Where it is narrower than it is to be, it is filled up: with blanks in front
or behind, or with zeros between its mark and its digits.

## Main definitions

- `Flags`: the choices that a format makes about the look of what it writes.
- `Numeral.ofInteger`: the numeral of an integer, in some base.
- `Numeral.fractionDigits`: the digits of a fraction.
- `Numeral.write`: a numeral, filled up.
-/

namespace TermSearch

/-- The choices that a format makes about the look of what it writes. -/
structure Flags where
  isLeftAligned : Bool
  showsPlus : Bool
  showsBlank : Bool
  isAlternate : Bool
  fillsWithZeros : Bool

namespace Flags

/-- The choices made by no flags. -/
def plain : Flags := ⟨false, false, false, false, false⟩

/-- The choices with those of one more flag, if the character is a flag. -/
def add? (flags : Flags) (c : Char) : Option Flags :=
  if c = '-' then some { flags with isLeftAligned := true }
  else if c = '+' then some { flags with showsPlus := true }
  else if c = ' ' then some { flags with showsBlank := true }
  else if c = '#' then some { flags with isAlternate := true }
  else if c = '0' then some { flags with fillsWithZeros := true }
  else none

end Flags

/-- Fills a text up to a width with blanks. -/
def fillUp (flags : Flags) (width : Nat) (cs : List Char) : List Char :=
  let blanks := List.replicate (width - cs.length) ' '
  if flags.isLeftAligned then cs ++ blanks else blanks ++ cs

/-- A written number in its parts. -/
structure Numeral where
  isNegative : Bool
  mark : List Char
  digits : List Char

namespace Numeral

/-- The numeral in capital letters. -/
def capitals (numeral : Numeral) : Numeral :=
  { numeral with
    mark := numeral.mark.map Char.toUpper, digits := numeral.digits.map Char.toUpper }

/-- Writes a numeral and fills it up to a width. -/
def write (flags : Flags) (width : Nat) (numeral : Numeral) : List Char :=
  let sign :=
    if numeral.isNegative then ['-']
    else if flags.showsPlus then ['+']
    else if flags.showsBlank then [' ']
    else []
  let front := sign ++ numeral.mark
  let zeros := width - (front ++ numeral.digits).length
  if flags.fillsWithZeros && !flags.isLeftAligned then
    front ++ List.replicate zeros '0' ++ numeral.digits
  else fillUp flags width (front ++ numeral.digits)

/-! ## Integers -/

/-- The mark of a base. -/
def baseMark (base : Nat) : List Char :=
  if base = 8 then ['0', 'o'] else if base = 16 then ['0', 'x'] else []

/-- The numeral of an integer in some base, with so many digits at least. -/
def ofInteger (flags : Flags) (base least : Nat) (n : Int) : Numeral where
  isNegative := n < 0
  mark := if flags.isAlternate then baseMark base else []
  digits := Text.padded least (Nat.toDigits base n.natAbs)

/-! ## Fractions -/

/-- The ways to write a fraction. -/
inductive FractionStyle where
  | fixed
  | exponential
  /-- One of the other two, as the size of the number suggests. -/
  | general

/-- The whole number of `count` digits that a number is rounded to, as digits, and the exponent of
the first of them. -/
def leadingDigits (count : Nat) (x : Rat) : List Char × Int :=
  if x = 0 then (List.replicate count '0', 0)
  else
    let order := Rounding.order 10 x
    let digits := Nat.toDigits 10 (Rounding.toInteger (x / 10 ^ (order - count))).toNat
    -- rounding up may have made one digit more, a zero
    if digits.length ≤ count then (digits, order - 1) else (digits.take count, order)

/-- A number with so many digits behind the point. -/
def fixed (keepsPoint : Bool) (places : Nat) (x : Rat) : List Char :=
  let digits := Nat.toDigits 10 (Rounding.toInteger (x * 10 ^ places)).toNat
  let digits := Text.padded (places + 1) digits
  Text.pointed keepsPoint (digits.length - places) digits

/-- A number with one digit in front of the point, so many behind it, and an exponent. -/
def exponential (keepsPoint : Bool) (places : Nat) (x : Rat) : List Char :=
  let (digits, exponent) := leadingDigits (places + 1) x
  Text.pointed keepsPoint 1 digits ++ Text.exponentText exponent

/-- A number of so many digits, with an exponent if it is very small or has more digits in front of
the point. Zeros at the end of those behind the point are left out, unless they are to stay. -/
def general (keepsZeros : Bool) (count : Nat) (x : Rat) : List Char :=
  let count := max count 1
  let (digits, exponent) := leadingDigits count x
  let (digits, whole, ending) :=
    if -4 ≤ exponent ∧ exponent < count then
      (List.replicate (-exponent).toNat '0' ++ digits, exponent.toNat + 1, [])
    else (digits, 1, Text.exponentText exponent)
  let shown :=
    if keepsZeros then digits else digits.take whole ++ Text.dropZeros (digits.drop whole)
  Text.pointed keepsZeros whole shown ++ ending

/-- The digits of a number in double precision; none is given where it is too great. -/
def fractionDigits (style : FractionStyle) (isAlternate : Bool) (places : Nat) :
    Option Rat → List Char
  | none => "inf".toList
  | some x =>
    match style with
    | .fixed => fixed isAlternate places x
    | .exponential => exponential isAlternate places x
    | .general => general isAlternate places x

example : general false 6 (1 / 8192) = "0.00012207".toList := by decide +kernel
example : exponential false 2 (1 / 8192) = "1.22e-04".toList := by decide +kernel

end Numeral

end TermSearch
