import TermSearch.Logging.Context
import TermSearch.Text.Occurrence

/-!
# Fields of Log Records

What the lines of a log can be made of. Beside its severity, its logger and its message, a record
tells when and where it was made; all of that comes under names. The time, as a clock and a calendar
give it, is among the fields only if a format asks for it.

## Main definitions

- `Occasion`: when and where a record is made.
- `LogRecord.fields`: the fields of a record.
-/

namespace TermSearch

/-- When and where a record is made. -/
structure Occasion where
  /-- The time, in its written form. -/
  time : String
  /-- The seconds since the epoch, the milliseconds of the last of them, and the milliseconds since
  logging began. -/
  seconds : Decimal
  milliseconds : Decimal
  elapsed : Decimal
  path : String
  file : String
  moduleName : String
  function : String
  line : Int
  process : Int
  processName : String
  thread : Int
  threadName : String
  deriving Inhabited

/-- What a record tells in one of its fields. -/
inductive LogField where
  | text (s : String)
  | integer (n : Int)
  | decimal (d : Decimal)
  | nothing
  /-- A message comes with no arguments to fill it with. -/
  | noArguments

namespace LogField

/-- The written form of a field inside another value. -/
def literal : LogField → String
  | text s => Text.quoted s
  | integer n => toString n
  | decimal d => d.text
  | nothing => "None"
  | noArguments => "()"

/-- The written form of a field on its own. -/
def display : LogField → String
  | text s => s
  | field => field.literal

/-- The written form of fields in a row, each with its name. -/
def literals (fields : Fields LogField) : String :=
  "\x7b" ++ ", ".intercalate (fields.map fun (name, field) =>
    Text.quoted name ++ ": " ++ field.literal) ++ "\x7d"

end LogField

namespace LogRecord

/-- The fields that every record has. -/
def commonFields (record : LogRecord) (occasion : Occasion) : Fields LogField := [
  ("name", .text record.logger),
  ("msg", .text record.message),
  ("args", .noArguments),
  ("levelname", .text record.severity.label),
  ("levelno", .integer record.severity.rank),
  ("pathname", .text occasion.path),
  ("filename", .text occasion.file),
  ("module", .text occasion.moduleName),
  ("exc_info", .nothing),
  ("exc_text", .nothing),
  ("stack_info", .nothing),
  ("lineno", .integer occasion.line),
  ("funcName", .text occasion.function),
  ("created", .decimal occasion.seconds),
  ("msecs", .decimal occasion.milliseconds),
  ("relativeCreated", .decimal occasion.elapsed),
  ("thread", .integer occasion.thread),
  ("threadName", .text occasion.threadName),
  ("processName", .text occasion.processName),
  ("process", .integer occasion.process),
  ("message", .text record.message)]

/-- Whether a format asks for the time. -/
def asksForTime (format : String) : Bool :=
  Text.occurs .anywhere "%(asctime)".toList format.toList

/-- The fields that a record has for a format. -/
def fields (format : String) (occasion : Occasion) (record : LogRecord) : Fields LogField :=
  record.commonFields occasion ++
    if asksForTime format then [("asctime", .text occasion.time)] else []

end LogRecord

end TermSearch
