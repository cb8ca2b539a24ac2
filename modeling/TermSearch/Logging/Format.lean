import TermSearch.Logging.Directive
import TermSearch.Unicode.Digit
import TermSearch.Unicode.WordCharacter

/-!
# Formats of Log Lines

A format is a text with directives in it. A directive begins with a percent sign, behind which there
may be a key between parentheses, flags, a width, a precision and a letter that is of no account; a
character that says what to convert to ends it. Two percent signs stand for one. A star in place of
a width or a precision asks for an argument. As there is never more than one at hand, none is left
to be converted then, and no line can be written.

A format is accepted if there is a directive in it that is written plainly enough. That is judged
apart from writing lines, so an accepted format may be one that no line can be written with, or none
for some records. Lines are taken to fit into memory, however wide they get.

## Main definitions

- `LogFormat.isValid`: whether a format is accepted.
- `LogFormat.pieces?`: the texts and directives that a format is made of.
- `LogFormat.render?`: the line of a record.
-/

namespace TermSearch

namespace LogFormat

/-! ## Accepting -/

/-- The signs that may stand before the width of a directive. -/
def flags : List Char := ['#', '0', '+', ' ', '-']

/-- The characters that may end a directive, in capital letters too. The dotted and the dotless `i`
and the long `s` count as letters of either case. -/
def conversions : List Char :=
  "diouxefgcrsa%".toList ++ "DIOUXEFGCRSA".toList ++ ['\u0130', '\u0131', '\u017F']

/-- What is left behind a width, which is a star or a number. -/
def skipSize : List Char → List Char
  | '*' :: rest => rest
  | cs => cs.dropWhile Unicode.isDigit

/-- Whether the text behind the name of a directive goes on as a directive does: flags, a
width, a precision and a conversion, all but the last of which may be missing. -/
def endsDirective (cs : List Char) : Bool :=
  let rest := skipSize (cs.dropWhile flags.contains)
  -- a point with no size behind it is no precision; as it is no conversion, the answer is no then
  let rest :=
    match rest with
    | '.' :: digits => if skipSize digits = digits then rest else skipSize digits
    | _ => rest
  match rest with
  | c :: _ => conversions.contains c
  | [] => false

/-- Whether the text begins with a directive. -/
def beginsDirective : List Char → Bool
  | '%' :: '(' :: rest =>
    match rest.dropWhile Unicode.isWordCharacter with
    -- the name must not be empty
    | ')' :: spec => rest.head? != some ')' && endsDirective spec
    | _ => false
  | _ => false

/-- Whether there is a directive somewhere in the text. -/
def hasDirective : List Char → Bool
  | [] => false
  | c :: rest => beginsDirective (c :: rest) || hasDirective rest

/-- The format that stands for the empty one. -/
def standard : String := "%(message)s"

/-- The format that a given one stands for. -/
def effective (format : String) : String :=
  if format.isEmpty then standard else format

/-- Whether a format is accepted. -/
def isValid (format : String) : Bool :=
  hasDirective format.toList

/-! ## Reading -/

/-- What a format is made of. -/
inductive Piece where
  | char (c : Char)
  | directive (directive : Directive)

/-- How far a directive is read, behind its key: flags may come, digits of its width were read, a
point was read, digits of its precision were read, or the letter of no account was read. -/
inductive Phase where
  | flags
  | width
  | point
  | precision
  | lettered

/-- How far a format is read: outside of directives, behind a percent sign, in a key with so many
parentheses open in it and with its characters so far, last first, or behind a key. -/
inductive Reading where
  | text
  | percent
  | key (depth : Nat) (reversed : List Char)
  | directive (phase : Phase) (soFar : Directive)

namespace Reading

/-- A directive of which only the key was read. -/
def begun (key : Option String) : Directive :=
  ⟨key, .plain, 0, none, '%'⟩

/-- The greatest width. -/
def greatestWidth : Nat := 0x7FFFFFFFFFFFFFFF

/-- The greatest precision. -/
def greatestPrecision : Nat := 0x7FFFFFFF

/-- A size with one more digit, unless it gets too great. -/
def addDigit? (greatest size : Nat) (c : Char) : Option Nat :=
  let more := size * 10 + (c.toNat - '0'.toNat)
  if more ≤ greatest then some more else none

/-- Reads on where only the conversion is missing. -/
def nextConversion (soFar : Directive) (c : Char) : Reading × List Piece :=
  (.text, [.directive { soFar with conversion := c }])

/-- Reads on where the sizes are complete. -/
def nextLetter (soFar : Directive) (c : Char) : Reading × List Piece :=
  if ['h', 'l', 'L'].contains c then (directive .lettered soFar, []) else nextConversion soFar c

/-- Reads on in the width. -/
def nextWidth? (soFar : Directive) (c : Char) : Option (Reading × List Piece) :=
  if c.isDigit then
    (addDigit? greatestWidth soFar.width c).map fun width =>
      (directive .width { soFar with width := width }, [])
  else if c = '.' then some (directive .point { soFar with precision := some 0 }, [])
  else some (nextLetter soFar c)

/-- Reads on in the precision. -/
def nextPrecision? (soFar : Directive) (c : Char) : Option (Reading × List Piece) :=
  if c.isDigit then
    (addDigit? greatestPrecision (soFar.precision.getD 0) c).map fun precision =>
      (directive .precision { soFar with precision := some precision }, [])
  else some (nextLetter soFar c)

/-- Reads one more character of a directive, unless a size is a star or gets too great. -/
def nextOfDirective? (soFar : Directive) : Phase → Char → Option (Reading × List Piece)
  | .flags, c =>
    match soFar.flags.add? c with
    | some flags => some (directive .flags { soFar with flags := flags }, [])
    | none => if c = '*' then none else nextWidth? soFar c
  | .width, c => nextWidth? soFar c
  | .point, c => if c = '*' then none else nextPrecision? soFar c
  | .precision, c => nextPrecision? soFar c
  | .lettered, c => some (nextConversion soFar c)

/-- Reads one more character of a format, with the pieces that are complete by it. -/
def next? : Reading → Char → Option (Reading × List Piece)
  | text, c => some (if c = '%' then (percent, []) else (text, [.char c]))
  | percent, c =>
    if c = '%' then some (text, [.char '%'])
    else if c = '(' then some (key 0 [], [])
    else nextOfDirective? (begun none) .flags c
  | key depth reversed, c =>
    if c = ')' then
      match depth with
      | 0 => some (directive .flags (begun (some (String.ofList reversed.reverse))), [])
      | depth + 1 => some (key depth (c :: reversed), [])
    else some (key (if c = '(' then depth + 1 else depth) (c :: reversed), [])
  | directive phase soFar, c => nextOfDirective? soFar phase c

/-- The pieces of the rest of a format, unless that is incomplete or a size is too great. -/
def pieces? : Reading → List Char → Option (List Piece)
  | text, [] => some []
  | _, [] => none
  | reading, c :: rest => do
    let (reading, pieces) ← reading.next? c
    let more ← reading.pieces? rest
    pure (pieces ++ more)

end Reading

/-- The texts and directives that a format is made of. -/
def pieces? (format : String) : Option (List Piece) :=
  Reading.text.pieces? format.toList

/-! ## Writing -/

/-- What is written for pieces with the fields of a record, where there may be an argument at hand
for the first directive. -/
def fill? (fields : Fields LogField) : Option Argument → List Piece → Option (List Char)
  | _, [] => some []
  | atHand?, .char c :: rest => do
    let more ← fill? fields atHand? rest
    pure (c :: more)
  | atHand?, .directive d :: rest => do
    -- a directive uses up what is at hand, even if it has a key
    let written ← d.write? fields atHand?
    let more ← fill? fields none rest
    pure (written ++ more)

/-- The line of a record, if one can be written. -/
def render? (format : String) (occasion : Occasion) (record : LogRecord) : Option String := do
  let pieces ← pieces? format
  let fields := record.fields format occasion
  let line ← fill? fields (some (.all fields)) pieces
  pure (String.ofList line)

end LogFormat

end TermSearch
