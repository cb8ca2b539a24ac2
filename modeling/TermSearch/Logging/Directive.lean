import TermSearch.Logging.Fields
import TermSearch.Logging.Numeral

/-!
# Directives

A directive in a format stands for what is written in its place: an argument, converted as the last
character of the directive says. A directive with a key takes the field of that name for its
argument. One without a key takes an argument that is at hand already; that is all fields of the
record together, in front of the first directive, and nothing behind it.

A directive cannot be written where the record has no such field or no argument is at hand, and
where the argument does not go with the conversion.

## Main definitions

- `Directive`: the parts of a directive.
- `Directive.convert?`: what is written for an argument.
- `Directive.write?`: what is written for a directive.
-/

namespace TermSearch

/-- What a directive may be written with: a field, or all fields together. -/
inductive Argument where
  | field (field : LogField)
  | all (fields : Fields LogField)

namespace Argument

/-- The written form of an argument. -/
def display : Argument → List Char
  | field f => f.display.toList
  | all fields => (LogField.literals fields).toList

/-- The written form of an argument inside another value. -/
def literal : Argument → List Char
  | field f => f.literal.toList
  | all fields => (LogField.literals fields).toList

/-- The integer that an argument is. -/
def integer? : Argument → Option Int
  | field (.integer n) => some n
  | _ => none

/-- The integer that an argument is, or is without its fraction. -/
def truncated? : Argument → Option Int
  | field (.integer n) => some n
  | field (.decimal d) => d.double?.map fun x => if d.isNegative then -x.floor else x.floor
  | _ => none

/-- The sign of an argument that is a number, and what it is in double precision without its sign.
A fraction may be too great for that, but an integer must not be. -/
def fraction? : Argument → Option (Bool × Option Rat)
  | field (.integer n) => (Rounding.toDouble? n.natAbs).map fun x => (n < 0, some x)
  | field (.decimal d) => some (d.isNegative, d.double?)
  | _ => none

/-- The character that an argument is, or whose code point it is. Half a pair of code points that
stand for one character together cannot be written. -/
def character? : Argument → Option Char
  | field (.text s) =>
    match s.toList with
    | [c] => some c
    | _ => none
  | field (.integer n) =>
    if 0 ≤ n ∧ n.toNat.isValidChar then some (Char.ofNat n.toNat) else none
  | _ => none

end Argument

/-- The parts of a directive. -/
structure Directive where
  key : Option String
  flags : Flags
  width : Nat
  precision : Option Nat
  conversion : Char

namespace Directive

/-- What is written for a text: no more of it than the precision, and at least the width. -/
def textOf (directive : Directive) (cs : List Char) : List Char :=
  let shown :=
    match directive.precision with
    | some limit => cs.take limit
    | none => cs
  fillUp directive.flags directive.width shown

/-- The numeral of an argument that goes with a conversion to integers or fractions. -/
def numeral? (directive : Directive) (argument : Argument) : Option Numeral :=
  let integer (base : Nat) (n : Int) : Numeral :=
    .ofInteger directive.flags base (directive.precision.getD 0) n
  let fraction (style : Numeral.FractionStyle) : Option Numeral :=
    argument.fraction?.map fun (isNegative, x?) =>
      ⟨isNegative, [], Numeral.fractionDigits style directive.flags.isAlternate
        (directive.precision.getD 6) x?⟩
  match directive.conversion with
  | 'd' | 'i' | 'u' => argument.truncated?.map (integer 10)
  | 'o' => argument.integer?.map (integer 8)
  | 'x' => argument.integer?.map (integer 16)
  | 'X' => (argument.integer?.map (integer 16)).map Numeral.capitals
  | 'e' => fraction .exponential
  | 'E' => (fraction .exponential).map Numeral.capitals
  | 'f' => fraction .fixed
  | 'F' => (fraction .fixed).map Numeral.capitals
  | 'g' => fraction .general
  | 'G' => (fraction .general).map Numeral.capitals
  | _ => none

/-- What is written for an argument, if it goes with the conversion. -/
def convert? (directive : Directive) (argument : Argument) : Option (List Char) :=
  match directive.conversion with
  | 's' => some (directive.textOf argument.display)
  | 'r' => some (directive.textOf argument.literal)
  | 'a' => some (directive.textOf (argument.literal.flatMap Text.asciiChar))
  | 'c' => argument.character?.map fun c => fillUp directive.flags directive.width [c]
  | _ => (directive.numeral? argument).map (Numeral.write directive.flags directive.width)

/-- What is written for a directive with the fields of a record, where there may be an argument at
hand already. -/
def write? (fields : Fields LogField) (atHand? : Option Argument) (directive : Directive) :
    Option (List Char) :=
  match directive.key with
  | some key => (Fields.get? fields key).bind fun field => directive.convert? (.field field)
  | none => atHand?.bind directive.convert?

end Directive

end TermSearch
