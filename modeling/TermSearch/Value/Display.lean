import TermSearch.Text.Quoted
import TermSearch.Value.Basic

/-!
# Written Values

How values are written in messages. A text on its own is written as it is; inside a list or
a map it is quoted.
-/

namespace TermSearch.Value

mutual

/-- The written form of a value inside another one. -/
def literal : Value → String
  | null => "None"
  | bool true => "True"
  | bool false => "False"
  | int n => toString n
  | decimal d => d.text
  | text s => Text.quoted s
  | list elements => "[" ++ literals elements ++ "]"
  | map entries => "\x7b" ++ entryLiterals entries ++ "\x7d"
  | record attributes => "Item(" ++ attributeLiterals attributes ++ ")"

/-- The written forms of values in a row. -/
def literals : List Value → String
  | [] => ""
  | [v] => literal v
  | v :: w :: rest => literal v ++ ", " ++ literals (w :: rest)

/-- The written forms of the entries of a map in a row. -/
def entryLiterals : List (String × Value) → String
  | [] => ""
  | [(key, v)] => Text.quoted key ++ ": " ++ literal v
  | (key, v) :: w :: rest =>
    Text.quoted key ++ ": " ++ literal v ++ ", " ++ entryLiterals (w :: rest)

/-- The written forms of the attributes of a record in a row. -/
def attributeLiterals : List (String × Value) → String
  | [] => ""
  | [(name, v)] => name ++ "=" ++ literal v
  | (name, v) :: w :: rest => name ++ "=" ++ literal v ++ ", " ++ attributeLiterals (w :: rest)

end

/-- The written form of a value on its own. -/
def display : Value → String
  | text s => s
  | v => v.literal

example : (list [int 1, text "a", null, bool true]).display = "[1, 'a', None, True]" := by
  decide +kernel

end TermSearch.Value
