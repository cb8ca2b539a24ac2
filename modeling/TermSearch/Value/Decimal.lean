import TermSearch.Text.Digits
import TermSearch.Value.Rounding

/-!
# Decimal Numbers

Finite decimal fractions: a sign, a natural number written in decimal digits, and a power of
ten. What counts of them is the number in double precision that they are rounded to. It is written
with as few digits as tell it from others, positionally where the leading digit stands between the
fourth place after the point and the sixteenth before it, and with an exponent otherwise.

## Main definitions

- `Decimal.double?`: the number in double precision that a decimal is rounded to.
- `Decimal.text`: the written form.
-/

namespace TermSearch

/-- The number `digits * 10 ^ exponent`, with a sign. -/
structure Decimal where
  isNegative : Bool
  digits : Nat
  exponent : Int
  deriving DecidableEq, Inhabited, Repr

namespace Decimal

/-- The number in double precision that the decimal is rounded to, without its sign, unless it is
too great for one. -/
def double? (d : Decimal) : Option Rat :=
  let places := d.exponent + (Nat.toDigits 10 d.digits).length
  -- powers of ten that are far out of range are not worked out
  if d.digits = 0 ∨ places < -400 then some 0
  else if 400 < places then none
  else Rounding.toDouble? (d.digits * 10 ^ d.exponent)

/-- Whether the number is zero, of either sign. -/
def isZero (d : Decimal) : Bool :=
  d.double? == some 0

/-- Whether the number is below zero. -/
def isBelowZero (d : Decimal) : Bool :=
  d.isNegative && !d.isZero

/-- Digits with a point after the first `places` of them, filled up with zeros on either side;
at least one digit stands on each side of the point. -/
def positional (digits : List Char) (places : Int) : List Char :=
  if places ≤ 0 then
    ['0', '.'] ++ List.replicate (-places).toNat '0' ++ digits
  else if digits.length ≤ places.toNat then
    digits ++ List.replicate (places.toNat - digits.length) '0' ++ ['.', '0']
  else
    digits.take places.toNat ++ '.' :: digits.drop places.toNat

/-- The digits of a number in double precision, with a point and perhaps an exponent. -/
def doubleDigits (x : Rat) : List Char :=
  if x = 0 then ['0', '.', '0']
  else
    let (shortest, exponent) := Rounding.shortest x
    let digits := Nat.toDigits 10 shortest.toNat
    let places := exponent + digits.length
    let digits := Text.dropZeros digits
    if -4 < places ∧ places ≤ 16 then positional digits places
    else Text.pointed false 1 digits ++ Text.exponentText (places - 1)

/-- The written form of a decimal. -/
def text (d : Decimal) : String :=
  let written :=
    match d.double? with
    | none => "inf".toList
    | some x => doubleDigits x
  String.ofList (if d.isNegative then '-' :: written else written)

example : (Decimal.mk true 1 (-5)).text = "-1e-05" := by decide +kernel
example : (Decimal.mk false 125 14).text = "1.25e+16" := by decide +kernel
example : (Decimal.mk false 1234567890123456789 (-19)).text = "0.12345678901234568" := by
  decide +kernel

end Decimal

end TermSearch
