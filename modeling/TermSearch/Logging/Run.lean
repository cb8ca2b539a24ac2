import TermSearch.Logging.Logger

/-!
# Runs of Logging

Setups and messages of loggers, one after the other, from logging that was never set up. A run
keeps what each setup came to and everything that was emitted, so that the written text is the
lines of all emissions in order.

## Main definitions

- `LogCall`: a message that is handed to a logger.
- `LogRun.setup`, `LogRun.log`: the run after one more setup or message.
- `LogRun.output`: the text that was written.
-/

namespace TermSearch

/-- A message that is handed to a logger, and the occasion. -/
structure LogCall where
  logger : Logger
  severity : Severity
  message : String
  occasion : Occasion

/-- The record that the logger makes of a message. -/
def LogCall.record (call : LogCall) : LogRecord :=
  call.logger.record call.severity call.message

/-- The configuration in force, the configuration or the fault that each setup came to, and
what was emitted. -/
structure LogRun where
  logging : Logging
  reports : List (Except Fault Logging)
  emissions : List Emission

namespace LogRun

/-- The run in which nothing was done yet. -/
def start : LogRun :=
  ⟨.unconfigured, [], []⟩

/-- The run after one more setup. -/
def setup (run : LogRun) (request : Setup) : LogRun :=
  match run.logging.setup request with
  | (after, .ok emissions) => ⟨after, run.reports ++ [.ok after], run.emissions ++ emissions⟩
  | (after, .error fault) => ⟨after, run.reports ++ [.error fault], run.emissions⟩

/-- The run after one more message was handed to a logger. -/
def log (run : LogRun) (call : LogCall) : LogRun :=
  { run with emissions := run.emissions ++ run.logging.emit call.occasion call.record }

/-- The run of setups, and of messages after them. -/
def ofSetups (setups : List Setup) (calls : List LogCall) : LogRun :=
  calls.foldl log (setups.foldl setup start)

/-- The text that the handlers have written. -/
def output (run : LogRun) : String :=
  String.join ((run.emissions.flatMap Emission.lines).map (· ++ "\n"))

/-- The records that have reached the logger of the library. -/
def libraryRecords (run : LogRun) : List LogRecord :=
  (run.emissions.map Emission.record).filter fun record => Logging.isInLibrary record.logger

end LogRun

end TermSearch
