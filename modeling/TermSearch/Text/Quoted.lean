import TermSearch.Text.Digits
import TermSearch.Unicode.Printable

/-!
# Quoted Text

The written form of a text inside other values: single quotes around it, or double quotes
where the text holds single quotes and no double ones. The quote, the backslash and what is
not printable are escaped; all other characters stand for themselves.
-/

namespace TermSearch.Text

/-- The quote that a text is written in. -/
def quoteFor (cs : List Char) : Char :=
  if cs.contains '\'' && !cs.contains '"' then '"' else '\''

/-- A number in lower-case hexadecimal digits, filled up with zeros to `width`. -/
def hexDigits (width n : Nat) : List Char :=
  padded width (Nat.toDigits 16 n)

/-- The escape of a character that is not printable, by its code point. -/
def codeEscape (c : Char) : List Char :=
  if c.toNat < 0x100 then '\\' :: 'x' :: hexDigits 2 c.toNat
  else if c.toNat < 0x10000 then '\\' :: 'u' :: hexDigits 4 c.toNat
  else '\\' :: 'U' :: hexDigits 8 c.toNat

/-- A character as it is written inside the given quotes. -/
def quotedChar (quote c : Char) : List Char :=
  if c = quote || c = '\\' then ['\\', c]
  else if c = '\n' then ['\\', 'n']
  else if c = '\r' then ['\\', 'r']
  else if c = '\t' then ['\\', 't']
  else if Unicode.isPrintable c then [c]
  else codeEscape c

/-- A character as it is written where only those of ASCII can be. -/
def asciiChar (c : Char) : List Char :=
  if c.toNat < 0x80 then [c] else codeEscape c

/-- The quoted form of a text. -/
def quoted (s : String) : String :=
  let quote := quoteFor s.toList
  String.ofList (quote :: s.toList.flatMap (quotedChar quote) ++ [quote])

example : quoted "it's" = "\"it's\"" := by decide +kernel
example : quoted "a\tb" = "'a\\tb'" := by decide +kernel

end TermSearch.Text
