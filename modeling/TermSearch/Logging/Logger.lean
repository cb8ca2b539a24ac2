import TermSearch.Logging.Configuration

/-!
# Loggers

A logger has a name and a context. Adding to the context gives a new logger and leaves the
logger that it was derived from as it is. One name cannot be used in a context: the one that
stands for the logger itself where values are added.

## Main definitions

- `Logger.addContext`, `Logger.addContexts`: adding to the context, once and in turn.
- `Logger.record`: the record of a message.
-/

namespace TermSearch

/-- A logger with a context. -/
structure Logger where
  name : String
  context : LogContext

namespace Logger

/-- The logger of a name, without context. -/
def ofName (name : String) : Logger :=
  ⟨Logging.loggerName name, []⟩

/-- The logger with more values in its context. -/
def withContext (logger : Logger) (updates : LogContext) : Logger :=
  { logger with context := logger.context.extend updates }

/-- The loggers that come of one by adding contexts in turn, itself first. -/
def withContexts (logger : Logger) : List LogContext → List Logger
  | [] => [logger]
  | updates :: rest => logger :: (logger.withContext updates).withContexts rest

/-- The name that stands for the logger itself where values are added to its context. -/
def ownName : String := "self"

/-- Adds values to the context of a logger, unless one of them goes by the name that stands for
the logger. -/
def addContext (logger : Logger) (updates : LogContext) : Except Fault Logger :=
  if (Fields.names updates).contains ownName then .error (.contextNameTaken ownName)
  else .ok (logger.withContext updates)

/-- Adds contexts in turn, up to the first that cannot be added, and gives all loggers on the way,
the first one included. -/
def addContexts (logger : Logger) : List LogContext → Except Fault (List Logger)
  | [] => .ok [logger]
  | updates :: rest => do
    let next ← logger.addContext updates
    let more ← next.addContexts rest
    pure (logger :: more)

/-- The record of a message. -/
def record (logger : Logger) (severity : Severity) (message : String) : LogRecord :=
  ⟨severity, logger.name, logger.context.annotate message⟩

end Logger

end TermSearch
