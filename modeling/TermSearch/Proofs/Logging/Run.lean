import Mathlib.Data.List.Basic
import TermSearch.Logging.Run
import TermSearch.Proofs.Logging.Format

/-!
# The Setup That Logging Goes By

What runs of logging come to: which of the setups the severities and the handler are from, which
records pass, and what is written. A setup can be refused in two ways, and they are not alike. One
that names no severity is refused before anything is touched. One whose format has no directive is
refused halfway, when the handlers in place are gone and none has taken their place.

## Main definitions

- `Setup.Puts`: a setup succeeds, with a severity and a format.
- `Setup.ownLine?`: the line by which a setup reports on itself.
- `LogRun.AddsFault`: a run is another one but for one more fault that is reported.

## Main statements

- `Setup.ownLine?_of_format_eq_none`: the report of a setup that is given a severity only.
- `LogRun.setup_cases`: what one setup does to a run.
- `LogRun.foldl_setup_congr`: runs with the same configuration go on alike.
- `LogRun.foldl_setup_logging`: what setups leave in force when none of them succeeds.
- `LogRun.goes_by_last_success`: what a run of setups and of calls on loggers comes to.
-/

namespace TermSearch

/-! ## What a setup asks for -/

namespace Setup

/-- The severity that a setup asks for, if its level names one. -/
def severity? (setup : Setup) : Option Severity :=
  match setup.level with
  | .text name => Logging.severityOfName? name
  | _ => none

/-- The format that a setup asks for. -/
def chosenFormat (setup : Setup) : String :=
  LogFormat.effective (setup.format.getD (Logging.standardFormat setup.withTime))

/-- A setup succeeds, and puts a severity and a format in force. -/
structure Puts (setup : Setup) (severity : Severity) (format : String) : Prop where
  severity_eq : setup.severity? = some severity
  format_eq : setup.chosenFormat = format
  isValid : LogFormat.isValid format = true

/-- A setup succeeds. -/
def Succeeds (setup : Setup) : Prop :=
  ∃ severity format, setup.Puts severity format

/-- The line by which a setup that succeeds reports on itself, in the format that it puts in force,
unless the severity that it puts in force is above that of the report, or the format cannot be
filled with it. -/
def ownLine? (setup : Setup) : Option String :=
  match setup.level, setup.severity? with
  | .text name, some severity =>
    if LogFormat.isValid setup.chosenFormat ∧ severity.rank ≤ Severity.info.rank then
      LogFormat.render? setup.chosenFormat setup.occasion (Logging.setupRecord name)
    else none
  | _, _ => none

/-- A setup that asks for a severity names it. -/
theorem exists_level_of_severity? {setup : Setup} {severity : Severity}
    (h : setup.severity? = some severity) :
    ∃ name, setup.level = .text name ∧ Logging.severityOfName? name = some severity := by
  obtain ⟨level, format, withTime, occasion⟩ := setup
  cases level with
  | text name => exact ⟨name, rfl, h⟩
  | _ => simp [severity?] at h

/-- A setup that is given the name of a severity, but no format, succeeds. Its report gives the name
as it was given. -/
theorem ownLine?_of_format_eq_none {setup : Setup} {name : String} {severity : Severity}
    (hlevel : setup.level = .text name) (hname : Logging.severityOfName? name = some severity)
    (hformat : setup.format = none) :
    setup.Puts severity (Logging.standardFormat setup.withTime) ∧
      setup.ownLine? =
        if severity.rank ≤ Severity.info.rank then
          some ((if setup.withTime then setup.occasion.time ++ " - " else "") ++
            Logging.setupLogger ++ " - " ++ "INFO" ++ " - " ++
            ("Logging configured with level: " ++ name))
        else none := by
  have hseverity : setup.severity? = some severity := by rw [severity?, hlevel]; exact hname
  have hchosen : setup.chosenFormat = Logging.standardFormat setup.withTime := by
    rw [chosenFormat, hformat]
    cases setup.withTime <;> decide +kernel
  have hvalid : LogFormat.isValid (Logging.standardFormat setup.withTime) = true := by
    cases setup.withTime <;> decide +kernel
  refine ⟨⟨hseverity, hchosen, hvalid⟩, ?_⟩
  rw [ownLine?, hlevel, hseverity]
  dsimp only
  rw [hchosen, hvalid, Logging.render?_standardFormat]
  simp only [true_and]
  rfl

end Setup

namespace Logging

variable {logging : Logging}

/-! ## Which records pass -/

/-- Where the library goes by the severity of the root, every logger does. -/
theorem severityOf_of_eq (h : logging.root = logging.library) (name : String) :
    logging.severityOf name = logging.root := by
  rw [severityOf, h, ite_self]

/-- Where the library goes by the severity of the root, the name of a logger is of no account. -/
theorem passes_iff_of_eq (h : logging.root = logging.library) (record : LogRecord) :
    logging.passes record = true ↔ logging.root.rank ≤ record.severity.rank := by
  rw [passes, severityOf_of_eq h, decide_eq_true_iff]

/-- What is written for calls is, for each of them whose record passes, a line of each handler that
can be filled with it. -/
theorem flatMap_emit_lines (calls : List LogCall) :
    (calls.flatMap fun call => logging.emit call.occasion call.record).flatMap Emission.lines =
      (calls.filter fun call => logging.passes call.record).flatMap fun call =>
        logging.handlers.filterMap fun format =>
          LogFormat.render? format call.occasion call.record := by
  induction calls with
  | nil => rfl
  | cons call calls ih =>
    rw [List.flatMap_cons, List.flatMap_append, ih]
    cases hpasses : logging.passes call.record <;> simp [emit, hpasses]

/-! ## One setup -/

/-- A setup that asks for no severity changes nothing. -/
theorem setup_of_severity?_eq_none {request : Setup} (h : request.severity? = none) :
    ∃ fault, ∀ logging : Logging, logging.setup request = (logging, .error fault) := by
  obtain ⟨level, format, withTime, occasion⟩ := request
  cases level with
  | text name =>
    have hname : severityOfName? name = none := h
    exact ⟨.unknownLevel name, fun logging => by simp [setup, hname]⟩
  | _ => exact ⟨_, fun _ => rfl⟩

/-- A setup that asks for a severity, but for a format without a directive, takes the handlers
away and leaves the severities. -/
theorem setup_of_isValid_eq_false {request : Setup} {severity : Severity}
    (hseverity : request.severity? = some severity)
    (hvalid : LogFormat.isValid request.chosenFormat = false) :
    logging.setup request =
      ({ logging with handlers := [] }, .error (.invalidFormat request.chosenFormat)) := by
  obtain ⟨name, hlevel, hname⟩ := Setup.exists_level_of_severity? hseverity
  rw [Setup.chosenFormat] at hvalid
  simp [setup, hlevel, hname, hvalid, Setup.chosenFormat]

/-- A setup that succeeds gives its severity to the root and to the library, puts a handler with
its format in place, and reports on itself in a line of its own, if at all. -/
theorem setup_of_puts (logging : Logging) {request : Setup} {severity : Severity} {format : String}
    (h : request.Puts severity format) :
    ∃ emissions, logging.setup request = (⟨severity, severity, [format]⟩, .ok emissions) ∧
      emissions.flatMap Emission.lines = request.ownLine?.toList := by
  obtain ⟨hseverity, rfl, hvalid⟩ := h
  obtain ⟨name, hlevel, hname⟩ := Setup.exists_level_of_severity? hseverity
  refine ⟨emit ⟨severity, severity, [request.chosenFormat]⟩ request.occasion (setupRecord name),
    ?_, ?_⟩
  · rw [Setup.chosenFormat] at hvalid
    simp [setup, hlevel, hname, hvalid, Setup.chosenFormat]
  · have hpasses : passes ⟨severity, severity, [request.chosenFormat]⟩ (setupRecord name) = true ↔
        severity.rank ≤ Severity.info.rank := passes_iff_of_eq rfl _
    simp only [Setup.ownLine?, hlevel, hseverity, hvalid, true_and, emit, hpasses]
    split
    · cases hline : LogFormat.render? request.chosenFormat request.occasion (setupRecord name) <;>
        simp [hline]
    · rfl

end Logging

namespace LogRun

/-- What one setup does to a run: nothing but report a fault, where it asks for no severity; where
its format has no directive, take the handlers away as well; or put its severity and its format in
force, with the line by which it reports on itself. -/
theorem setup_cases (run : LogRun) (request : Setup) :
    (request.severity? = none ∧ request.ownLine? = none ∧
      ∃ fault, run.setup request = { run with reports := run.reports ++ [.error fault] }) ∨
    (request.severity? ≠ none ∧ request.ownLine? = none ∧
      ∃ fault, run.setup request =
        ⟨{ run.logging with handlers := [] }, run.reports ++ [.error fault], run.emissions⟩) ∨
    ∃ severity format emissions, request.Puts severity format ∧
      run.setup request = ⟨⟨severity, severity, [format]⟩,
        run.reports ++ [.ok ⟨severity, severity, [format]⟩], run.emissions ++ emissions⟩ ∧
      emissions.flatMap Emission.lines = request.ownLine?.toList := by
  cases hseverity : request.severity? with
  | none =>
    obtain ⟨fault, hfault⟩ := Logging.setup_of_severity?_eq_none hseverity
    refine .inl ⟨rfl, by simp [Setup.ownLine?, hseverity], fault, ?_⟩
    rw [setup, hfault]
  | some severity =>
    cases hvalid : LogFormat.isValid request.chosenFormat with
    | false =>
      have hline : request.ownLine? = none := by
        obtain ⟨name, hlevel, -⟩ := Setup.exists_level_of_severity? hseverity
        simp [Setup.ownLine?, hseverity, hvalid, hlevel]
      refine .inr (.inl ⟨by simp, hline, .invalidFormat request.chosenFormat, ?_⟩)
      rw [setup, Logging.setup_of_isValid_eq_false hseverity hvalid]
    | true =>
      have hputs : request.Puts severity request.chosenFormat := ⟨hseverity, rfl, hvalid⟩
      obtain ⟨emissions, hsetup, hlines⟩ := Logging.setup_of_puts run.logging hputs
      refine .inr (.inr ⟨severity, _, emissions, hputs, ?_, hlines⟩)
      rw [setup, hsetup]

/-! ## Setups in a row -/

/-- Runs with the same configuration go on alike, whatever was reported and emitted before. -/
theorem foldl_setup_congr (setups : List Setup) (run other : LogRun)
    (h : run.logging = other.logging) :
    ∃ logging reports emissions,
      setups.foldl setup run = ⟨logging, run.reports ++ reports, run.emissions ++ emissions⟩ ∧
      setups.foldl setup other =
        ⟨logging, other.reports ++ reports, other.emissions ++ emissions⟩ := by
  induction setups generalizing run other with
  | nil => exact ⟨run.logging, [], [], by simp, by simp [h]⟩
  | cons request setups ih =>
    have hstep : ∃ logging reports emissions,
        run.setup request = ⟨logging, run.reports ++ reports, run.emissions ++ emissions⟩ ∧
        other.setup request =
          ⟨logging, other.reports ++ reports, other.emissions ++ emissions⟩ := by
      -- what a setup adds to a run is decided by the configuration alone
      rw [setup, setup, h]
      rcases other.logging.setup request with ⟨after, fault | emissions⟩
      · exact ⟨after, [.error fault], [], by simp, by simp⟩
      · exact ⟨after, [.ok after], emissions, rfl, rfl⟩
    obtain ⟨logging, reports, emissions, hrun, hother⟩ := hstep
    rw [List.foldl_cons, List.foldl_cons, hrun, hother]
    obtain ⟨last, moreReports, moreEmissions, hrun', hother'⟩ :=
      ih ⟨logging, run.reports ++ reports, run.emissions ++ emissions⟩
        ⟨logging, other.reports ++ reports, other.emissions ++ emissions⟩ rfl
    exact ⟨last, reports ++ moreReports, emissions ++ moreEmissions,
      by simpa using hrun', by simpa using hother'⟩

/-- Every setup reports once. -/
theorem length_reports_foldl_setup (setups : List Setup) (run : LogRun) :
    (setups.foldl setup run).reports.length = run.reports.length + setups.length := by
  induction setups generalizing run with
  | nil => rfl
  | cons request setups ih =>
    have hstep : (run.setup request).reports.length = run.reports.length + 1 := by
      rcases setup_cases run request with ⟨-, -, _, h⟩ | ⟨-, -, _, h⟩ | ⟨_, _, _, -, h, -⟩ <;>
        simp [h]
    rw [List.foldl_cons, ih, hstep, List.length_cons]
    omega

/-- Setups of which none succeeds leave the severities, and they leave the handlers if each of them
asks for no severity. -/
theorem foldl_setup_logging (setups : List Setup) (run : LogRun)
    (h : ∀ request ∈ setups, ¬ request.Succeeds) :
    (setups.foldl setup run).logging =
      { run.logging with
        handlers := if ∀ request ∈ setups, request.severity? = none then run.logging.handlers
          else [] } := by
  induction setups generalizing run with
  | nil => simp
  | cons request setups ih =>
    obtain ⟨hrequest, hsetups⟩ := List.forall_mem_cons.mp h
    rw [List.foldl_cons, ih _ hsetups]
    rcases setup_cases run request with ⟨hnone, -, _, hstep⟩ | ⟨hsome, -, _, hstep⟩ |
      ⟨severity, format, _, hputs, -⟩
    · simp only [hstep, List.forall_mem_cons, hnone, true_and]
    · -- handlers that are gone do not come back, whatever the setups behind ask for
      simp only [hstep, List.forall_mem_cons, hsome, false_and, if_false, ite_self]
    · exact absurd ⟨severity, format, hputs⟩ hrequest

/-- What is written for setups is the line by which each of them reports on itself. -/
theorem foldl_setup_lines (setups : List Setup) (run : LogRun) :
    (setups.foldl setup run).emissions.flatMap Emission.lines =
      run.emissions.flatMap Emission.lines ++ setups.filterMap Setup.ownLine? := by
  induction setups generalizing run with
  | nil => simp
  | cons request setups ih =>
    have hstep : (run.setup request).emissions.flatMap Emission.lines =
        run.emissions.flatMap Emission.lines ++ request.ownLine?.toList := by
      rcases setup_cases run request with ⟨-, hline, _, h⟩ | ⟨-, hline, _, h⟩ |
        ⟨_, _, emissions, -, h, hlines⟩
      · simp [h, hline]
      · simp [h, hline]
      · rw [h, List.flatMap_append, hlines]
    rw [List.foldl_cons, ih, hstep, List.append_assoc]
    cases hline : request.ownLine? with
    | none => simp [hline]
    | some line => simp [hline]

/-- Setups of which none succeeds do not report on themselves. -/
theorem filterMap_ownLine?_eq_nil {setups : List Setup}
    (h : ∀ request ∈ setups, ¬ request.Succeeds) : setups.filterMap Setup.ownLine? = [] := by
  refine List.filterMap_eq_nil_iff.mpr fun request hmem => ?_
  rcases setup_cases start request with ⟨-, hline, -⟩ | ⟨-, hline, -⟩ | ⟨_, _, _, hputs, -⟩
  · exact hline
  · exact hline
  · exact absurd ⟨_, _, hputs⟩ (h request hmem)

/-! ## Calls in a row -/

/-- Calls change nothing of a run but what was emitted. -/
theorem foldl_log (calls : List LogCall) (run : LogRun) :
    calls.foldl log run =
      { run with
        emissions := run.emissions ++
          calls.flatMap fun call => run.logging.emit call.occasion call.record } := by
  induction calls generalizing run with
  | nil => simp
  | cons call calls ih => rw [List.foldl_cons, ih]; simp [log]

/-- The configuration that calls are judged by is the one that the setups leave in force. -/
theorem ofSetups_logging (setups : List Setup) (calls : List LogCall) :
    (ofSetups setups calls).logging = (setups.foldl setup start).logging := by
  rw [ofSetups, foldl_log]

/-- What is written is the line by which each setup reports on itself, and then, for each call whose
record passes, a line of each handler that can be filled with it. -/
theorem ofSetups_output (setups : List Setup) (calls : List LogCall) :
    (ofSetups setups calls).output =
      String.join ((setups.filterMap Setup.ownLine? ++
        (calls.filter fun call => (ofSetups setups calls).logging.passes call.record).flatMap
          fun call => (ofSetups setups calls).logging.handlers.filterMap fun format =>
            LogFormat.render? format call.occasion call.record).map (· ++ "\n")) := by
  rw [output, ofSetups_logging, ofSetups, foldl_log, List.flatMap_append, foldl_setup_lines,
    Logging.flatMap_emit_lines]
  rfl

/-! ## Whole runs -/

/-- A run has the configuration of another one and emits the same, and reports the same but for one
more fault, at a place. -/
structure AddsFault (run other : LogRun) (place : Nat) (fault : Fault) : Prop where
  logging_eq : run.logging = other.logging
  emissions_eq : run.emissions = other.emissions
  reports_eq : ∃ earlier later, earlier.length = place ∧
    run.reports = earlier ++ .error fault :: later ∧ other.reports = earlier ++ later

/-- A setup that asks for no severity can be left out, but for the fault that it reports. -/
theorem addsFault_of_severity?_eq_none {refused : Setup} {fault : Fault}
    (h : ∀ logging : Logging, logging.setup refused = (logging, .error fault))
    (before after : List Setup) (calls : List LogCall) :
    (ofSetups (before ++ refused :: after) calls).AddsFault (ofSetups (before ++ after) calls)
      before.length fault := by
  have hrefused : (before.foldl setup start).setup refused =
      { before.foldl setup start with
        reports := (before.foldl setup start).reports ++ [.error fault] } := by
    rw [setup, h]
  -- the setups after it begin with the same configuration, whether it was refused or left out
  obtain ⟨logging, reports, emissions, hwith, hwithout⟩ :=
    foldl_setup_congr after ((before.foldl setup start).setup refused) (before.foldl setup start)
      (by rw [hrefused])
  have hlength := length_reports_foldl_setup before start
  rw [ofSetups, ofSetups, List.foldl_append, List.foldl_append, List.foldl_cons, hwith, hwithout,
    hrefused, foldl_log, foldl_log]
  exact ⟨rfl, rfl, (before.foldl setup start).reports, reports, by simpa [start] using hlength,
    by simp, rfl⟩

/-- The last setup that succeeds decides on the configuration, if none after it has taken its
handler away. -/
theorem ofSetups_logging_of_puts {last : Setup} {severity : Severity} {format : String}
    (hputs : last.Puts severity format) (before : List Setup) {after : List Setup}
    (hafter : ∀ later ∈ after, ¬ later.Succeeds) (calls : List LogCall) :
    (ofSetups (before ++ last :: after) calls).logging =
      ⟨severity, severity,
        if ∀ later ∈ after, later.severity? = none then [format] else []⟩ := by
  obtain ⟨emissions, hlast, -⟩ :=
    Logging.setup_of_puts (before.foldl setup start).logging hputs
  rw [ofSetups_logging, List.foldl_append, List.foldl_cons, foldl_setup_logging after _ hafter,
    setup, hlast]

/-- What a run of setups and of calls on loggers comes to. A setup that asks for no severity can be
left out, but for the fault that it reports. Where no setup succeeds, nothing is written. Otherwise
the last one that does decides: its severity is that of the root and of the library, so that the
records of every logger are judged by it, and its format is that of the only handler, unless a setup
after it was refused for its format and has taken that handler away. What is written is the line by
which each setup reports on itself, and then, if there is a handler, a line for each record that
passes and that its format can be filled with. -/
theorem goes_by_last_success (setups : List Setup) (calls : List LogCall) :
    (∀ before refused after, setups = before ++ refused :: after → refused.severity? = none →
      ∃ fault, (∀ logging : Logging, logging.setup refused = (logging, .error fault)) ∧
        (ofSetups setups calls).AddsFault (ofSetups (before ++ after) calls) before.length fault) ∧
    ((∀ setup ∈ setups, ¬ setup.Succeeds) → (ofSetups setups calls).output = "") ∧
    ∀ before last after severity format, setups = before ++ last :: after →
      last.Puts severity format → (∀ later ∈ after, ¬ later.Succeeds) →
      let run := ofSetups setups calls
      run.logging.root = severity ∧ run.logging.library = severity ∧
      run.logging.handlers =
        (if ∀ later ∈ after, later.severity? = none then [format] else []) ∧
      (∀ record, run.logging.passes record = true ↔ severity.rank ≤ record.severity.rank) ∧
      run.output = String.join ((setups.filterMap Setup.ownLine? ++
        if ∀ later ∈ after, later.severity? = none then
          (calls.filter fun call => severity.rank ≤ call.severity.rank).filterMap fun call =>
            LogFormat.render? format call.occasion call.record
        else []).map (· ++ "\n")) := by
  refine ⟨fun before refused after hsetups hrefused => ?_, fun hnone => ?_,
    fun before last after severity format hsetups hputs hafter => ?_⟩
  · obtain ⟨fault, hfault⟩ := Logging.setup_of_severity?_eq_none hrefused
    rw [hsetups]
    exact ⟨fault, hfault, addsFault_of_severity?_eq_none hfault before after _⟩
  · -- there is no handler to begin with, and only a setup that succeeds brings one
    have hhandlers : (ofSetups setups calls).logging.handlers = [] := by
      rw [ofSetups_logging, foldl_setup_logging setups start hnone]
      exact ite_self _
    rw [ofSetups_output, filterMap_ownLine?_eq_nil hnone, hhandlers,
      List.flatMap_eq_nil_iff.mpr fun _ _ => List.filterMap_nil]
    rfl
  · -- the configuration that the calls find, and from it what they write
    have hlogging := ofSetups_logging_of_puts hputs before hafter calls
    rw [← hsetups] at hlogging
    have hpasses : ∀ record, (ofSetups setups calls).logging.passes record = true ↔
        severity.rank ≤ record.severity.rank := by
      rw [hlogging]
      exact Logging.passes_iff_of_eq rfl
    have hfilter : (calls.filter fun call => (ofSetups setups calls).logging.passes call.record) =
        calls.filter fun call => severity.rank ≤ call.severity.rank :=
      List.filter_congr fun call _ =>
        Bool.eq_iff_iff.mpr ((hpasses call.record).trans decide_eq_true_iff.symm)
    dsimp only
    rw [ofSetups_output, hfilter]
    refine ⟨by rw [hlogging], by rw [hlogging], by rw [hlogging], hpasses, ?_⟩
    rw [hlogging]
    dsimp only
    split
    · simp only [List.filterMap_eq_flatMap_toList, List.flatMap_cons, List.flatMap_nil,
        List.append_nil]
    · rw [List.flatMap_eq_nil_iff.mpr fun _ _ => List.filterMap_nil]

/-- A record that passes is not written where a setup that was refused for its format has taken away
the handler of the setup before it. Neither is one that the format of the handler cannot be filled
with: here, for a percent sign that was to be written, and for a field that records do not have. -/
theorem passing_record_not_written :
    let call : LogCall := ⟨.ofName "app", .warning, "kept", default⟩
    (let last : Setup := ⟨.text "INFO", some "%(message)s", true, default⟩
      let refused : Setup := ⟨.text "INFO", some "plain", true, default⟩
      let run := ofSetups [last, refused] [call]
      last.Puts .info "%(message)s" ∧ ¬ refused.Succeeds ∧
      run.logging.handlers = [] ∧ run.logging.passes call.record = true ∧
      run.output = "Logging configured with level: INFO\n") ∧
    ∀ format ∈ ["100% %(message)s", "%(user)s %(message)s"],
      let last : Setup := ⟨.text "INFO", some format, true, default⟩
      let run := ofSetups [last] [call]
      last.Puts .info format ∧ run.logging.handlers = [format] ∧
      run.logging.passes call.record = true ∧ run.output = "" := by
  dsimp only
  refine ⟨⟨⟨by decide +kernel, by decide +kernel, by decide +kernel⟩, ?_, by decide +kernel,
    by decide +kernel, by decide +kernel⟩, fun format hformat => ?_⟩
  · rintro ⟨severity, format, -, rfl, hvalid⟩
    exact absurd hvalid (by decide +kernel)
  · rcases List.mem_pair.mp hformat with rfl | rfl <;>
      exact ⟨⟨by decide +kernel, by decide +kernel, by decide +kernel⟩, by decide +kernel,
        by decide +kernel, by decide +kernel⟩

end LogRun

end TermSearch
