import TermSearch.Value.Display

/-!
# Log Records and Their Context

A log record is a message of some severity under the name of a logger. A logger may carry a
context of named values, which is written behind each of its messages in brackets.
-/

namespace TermSearch

/-- How grave a log record is, and the least gravity that a logger lets pass. -/
inductive Severity where
  | unset
  | debug
  | info
  | warning
  | error
  | critical
  deriving DecidableEq, Repr

namespace Severity

/-- The number that severities are compared by. -/
def rank : Severity → Nat
  | unset => 0
  | debug => 10
  | info => 20
  | warning => 30
  | error => 40
  | critical => 50

/-- The name of a severity. -/
def label : Severity → String
  | unset => "NOTSET"
  | debug => "DEBUG"
  | info => "INFO"
  | warning => "WARNING"
  | error => "ERROR"
  | critical => "CRITICAL"

/-- The severity of a name in upper case; two severities go by a second name. -/
def ofLabel? (name : String) : Option Severity :=
  if name = "FATAL" then some critical
  else if name = "WARN" then some warning
  else [critical, error, warning, info, debug, unset].find? fun s => s.label == name

end Severity

/-- A message under the name of a logger. -/
structure LogRecord where
  severity : Severity
  logger : String
  message : String
  deriving DecidableEq, Repr

/-- The named values that a logger writes behind its messages, in the order in which they
were first set. -/
abbrev LogContext := Fields Value

namespace LogContext

/-- The context with more values set. -/
def extend (context updates : LogContext) : LogContext :=
  Fields.putAll context updates

/-- The entries of a context, each with its name. -/
def entryTexts (context : LogContext) : List String :=
  context.map fun (name, v) => name ++ "=" ++ v.display

/-- A message as a logger with this context writes it. -/
def annotate (context : LogContext) (message : String) : String :=
  if context.isEmpty then message
  else message ++ " [" ++ " ".intercalate context.entryTexts ++ "]"

end LogContext

end TermSearch
