/-!
# Rounding

Fractions are rounded to the nearest whole number, or to the nearest number in double precision: a
whole number below `2 ^ 53` times a power of two that is not below `2 ^ (-1074)`. In the middle
between two numbers, a fraction is rounded to the even one.

## Main definitions

- `Rounding.toInteger`: the nearest whole number.
- `Rounding.order`: how many places stand before the point.
- `Rounding.toDouble?`: the nearest number in double precision.
- `Rounding.shortest`: the fewest decimal digits that tell a number in double precision from others.
-/

namespace TermSearch.Rounding

/-- The nearest whole number. -/
def toInteger (x : Rat) : Int :=
  let below := x.floor
  if x - below < 1 / 2 then below
  else if 1 / 2 < x - below then below + 1
  else below + below % 2

/-- How many places of a positive number stand before the point, in digits of a base. It is not
above zero if the number is below one, and there are zeros behind the point. -/
def order (base : Nat) (x : Rat) : Int :=
  -- numerator and denominator, by their sizes, leave two choices
  let least : Int := (Nat.toDigits base x.num.natAbs).length - (Nat.toDigits base x.den).length
  if (base : Rat) ^ least ≤ x then least + 1 else least

/-- The nearest number in double precision to a number that is not negative, unless that is too
great. -/
def toDouble? (x : Rat) : Option Rat :=
  if x = 0 then some 0
  else
    let unit : Rat := 2 ^ max (order 2 x - 53) (-1074)
    let nearest := toInteger (x / unit) * unit
    if nearest < 2 ^ (1024 : Int) then some nearest else none

/-- The number of so many decimal digits that is nearest to a positive number, and the number next
to it on the other side, as whole numbers with an exponent. -/
def neighbours (x : Rat) (count : Nat) : List (Int × Int) :=
  let exponent := order 10 x - count
  let exact := x / 10 ^ exponent
  let nearest := toInteger exact
  [(nearest, exponent), (if nearest ≤ exact then nearest + 1 else nearest - 1, exponent)]

/-- The fewest decimal digits, as a whole number with an exponent, that are rounded to a positive
number in double precision; there are at most seventeen. -/
def shortest (x : Rat) : Int × Int :=
  -- the nearer one of two neighbours comes first, and is taken if both are rounded to the number
  let tried := (List.range' 1 17).flatMap (neighbours x)
  (tried.find? fun (digits, exponent) => toDouble? (digits * 10 ^ exponent) = some x).getD (0, 0)

example : toDouble? (1 / 10) = some (3602879701896397 / 36028797018963968) := by decide +kernel
example : shortest (3602879701896397 / 36028797018963968) = (1, -1) := by decide +kernel

end TermSearch.Rounding
