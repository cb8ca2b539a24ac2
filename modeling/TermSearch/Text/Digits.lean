/-!
# Digits

How the digits of a number are put together: with zeros in front of them, a point among them and an
exponent behind them.
-/

namespace TermSearch.Text

/-- Digits behind zeros, so that there are `least` of them. -/
def padded (least : Nat) (digits : List Char) : List Char :=
  List.replicate (least - digits.length) '0' ++ digits

/-- Digits with a point behind the first `whole` of them. Where none are left behind it, the point
is left out, unless it is to stay. -/
def pointed (keepsPoint : Bool) (whole : Nat) (digits : List Char) : List Char :=
  let fraction := digits.drop whole
  digits.take whole ++ if fraction.isEmpty && !keepsPoint then [] else '.' :: fraction

/-- A signed exponent of two digits or more. -/
def exponentText (exponent : Int) : List Char :=
  'e' :: (if exponent < 0 then '-' else '+') :: padded 2 (Nat.toDigits 10 exponent.natAbs)

/-- Digits without the zeros at their end. -/
def dropZeros (digits : List Char) : List Char :=
  (digits.reverse.dropWhile (· = '0')).reverse

end TermSearch.Text
