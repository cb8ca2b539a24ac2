/-!
# Patterns of Whole Words

A term as whole words, written as a regular expression: the term with its special characters
escaped, between the conditions that no word character precedes and none follows.
-/

namespace TermSearch.Text

/-- The characters that a regular expression escapes to mean them literally. -/
def patternSpecials : List Char := [
  '(', ')', '[', ']', '\x7b', '\x7d', '?', '*', '+', '-', '|', '^', '$', '\\', '.', '&', '~', '#',
  ' ', '\t', '\n', '\r', '\x0b', '\x0c']

/-- The regular expression that matches the text literally. -/
def escapePattern (cs : List Char) : List Char :=
  cs.flatMap fun c => if patternSpecials.contains c then ['\\', c] else [c]

/-- The regular expression that matches the term as whole words. -/
def wordPattern (term : String) : String :=
  "(?<!\\w)" ++ String.ofList (escapePattern term.toList) ++ "(?!\\w)"

example : wordPattern "a.b" = "(?<!\\w)a\\.b(?!\\w)" := by decide +kernel

end TermSearch.Text
