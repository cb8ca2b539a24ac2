import TermSearch.Fault
import TermSearch.Logging.Format
import TermSearch.Unicode.Uppercase

/-!
# Logging Configuration

Which log records are written and how. The root logger and the logger of this library each
have a severity; a logger lets a record pass if it is at least as grave as the severity of its
nearest ancestor that has one set. Each handler at the root writes a line for every record that
passes, in its format, if the format can be filled with the record; a setup puts one handler in
place of those before it, and before any setup there is none.

## Main definitions

- `Logging.setup`: sets the severity and the format.
- `Logging.emit`: what becomes of a record.
-/

namespace TermSearch

/-- The severities in force, and the formats of the handlers at the root. -/
structure Logging where
  root : Severity
  library : Severity
  handlers : List String
  deriving DecidableEq, Repr

/-- A record that its logger lets pass, and the lines that the handlers write for it. -/
structure Emission where
  record : LogRecord
  lines : List String
  deriving DecidableEq, Repr

/-- What a setup is given: a severity, perhaps a format, and whether the format that is used
otherwise shows the time. It is made on an occasion, which its report tells of. -/
structure Setup where
  level : Value
  format : Option String
  withTime : Bool
  occasion : Occasion

namespace Logging

/-- The name of the root logger. -/
def rootName : String := "root"

/-- The name of the logger of the library. -/
def libraryName : String := "fluent_search"

/-- The logger that reports on setups. -/
def setupLogger : String := "fluent_search.utils.logging_config"

/-- Logging before any setup. -/
def unconfigured : Logging :=
  ⟨.warning, .unset, []⟩

/-- The name that a logger has; the root logger has no name of its own. -/
def loggerName (given : String) : String :=
  if given.isEmpty then rootName else given

/-- The names of the ancestors of a logger, backwards, from its own name backwards: what
stands before a dot of the name. A dot at the front does not count, and neither does one
directly before another dot that counts. -/
def ancestorsBackwards : List Char → List (List Char)
  | [] => []
  | [_] => []
  | c :: d :: rest =>
    if c = '.' then (d :: rest) :: ancestorsBackwards rest else ancestorsBackwards (d :: rest)

/-- Whether a logger is the logger of the library or descends from it. -/
def isInLibrary (name : String) : Bool :=
  name == libraryName ||
    (ancestorsBackwards name.toList.reverse).contains libraryName.toList.reverse

/-- The severity that a logger goes by. -/
def severityOf (logging : Logging) (name : String) : Severity :=
  if isInLibrary name && logging.library != .unset then logging.library else logging.root

/-- Whether a logger lets a record pass. -/
def passes (logging : Logging) (record : LogRecord) : Bool :=
  (logging.severityOf record.logger).rank ≤ record.severity.rank

/-- What becomes of a record, if its logger lets it pass. A handler whose format cannot be filled
with the record writes nothing. -/
def emit (logging : Logging) (occasion : Occasion) (record : LogRecord) : List Emission :=
  if logging.passes record then
    [⟨record, logging.handlers.filterMap fun format => LogFormat.render? format occasion record⟩]
  else []

/-- The severity of a name in letters of either case. -/
def severityOfName? (name : String) : Option Severity :=
  Severity.ofLabel? (String.ofList (name.toList.flatMap Unicode.uppercase))

/-- The format that a setup chooses where none is given. -/
def standardFormat (withTime : Bool) : String :=
  if withTime then "%(asctime)s - %(name)s - %(levelname)s - %(message)s"
  else "%(name)s - %(levelname)s - %(message)s"

/-- The severity that a setup chooses where none is given. -/
def standardLevel : Value := .text "INFO"

/-- The record by which a setup reports the severity that it was given. -/
def setupRecord (name : String) : LogRecord :=
  ⟨.info, setupLogger, "Logging configured with level: " ++ name⟩

/-- Sets the severity and the format, and reports on it in the log. A severity that is not
known changes nothing. A format without a directive takes the handlers away and leaves the
severities. -/
def setup (logging : Logging) (request : Setup) : Logging × Except Fault (List Emission) :=
  match request.level with
  | .text name =>
    match severityOfName? name with
    | none => (logging, .error (.unknownLevel name))
    | some severity =>
      let format := LogFormat.effective (request.format.getD (standardFormat request.withTime))
      if LogFormat.isValid format then
        let after : Logging := ⟨severity, severity, [format]⟩
        (after, .ok (after.emit request.occasion (setupRecord name)))
      else ({ logging with handlers := [] }, .error (.invalidFormat format))
  | other => (logging, .error (.levelNotText other.typeName))

end Logging

end TermSearch
