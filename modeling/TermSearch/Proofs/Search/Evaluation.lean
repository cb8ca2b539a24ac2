import TermSearch.Proofs.Search.Chain
import TermSearch.Proofs.Search.Traversal

/-!
# Evaluation of Items

How an item is tried by the conditions of a search, as one passage from left to right. The
conditions are evaluated in order, up to the first that fails. A condition matches its terms
together, or one after the other where each of them has to match, up to the first that no
property matches. To match terms, the properties are read in order, up to the first whose value
matches.

The verdict on an item and the properties read for it are given by definitions of their own
here. A fault ends the evaluation like a verdict that decides, so only the faults of reads that
are made can come up.

## Main definitions

- `Condition.verdict`, `Condition.reads`: the verdict of one condition, and the properties that
  it reads.
- `Stage.verdict`, `Stage.reads`: the same for all conditions of a stage.

## Main statements

- `Stage.accepts_result`, `Stage.reads_accepts`: trying an item comes to this verdict and makes
  these reads.
- `Stage.verdict_eq_error_iff`: a fault comes up where a read that is made ends in it.
- `Search.evaluates_left_to_right`: the same for the search that a chain of calls makes, and for
  all items of a source.
-/

namespace TermSearch

/-! ## One condition -/

namespace Condition

/-- The terms that are matched together, group after group. Every group has to match. -/
def groups (condition : Condition) : List (List String) :=
  match condition.operation with
  | .containingAll => condition.terms.map fun term => [term]
  | _ => [condition.terms]

variable (condition : Condition) (accessors : List Accessor) (item : Value)

/-- What one property decides for a group of terms: whether its value matches one of them. -/
def propertyVerdict (terms : List String) (accessor : Accessor) : Verdict :=
  (accessor.read item).result.map fun value => terms.any (condition.check value)

/-- The verdict on a group of terms: whether some property matches. -/
def groupVerdict (terms : List String) : Verdict :=
  Verdict.any (accessors.map (condition.propertyVerdict item terms))

/-- The properties read for a group of terms: those up to the first that decides. -/
def groupReads (terms : List String) : List Accessor :=
  upToFirst (fun accessor => !Verdict.isNo (condition.propertyVerdict item terms accessor))
    accessors

/-- The verdict of a condition: whether all groups match. -/
def verdict : Verdict :=
  Verdict.every (condition.groups.map (condition.groupVerdict accessors item))

/-- The properties that a condition reads: those of the groups up to the first that fails. -/
def reads : List Accessor :=
  (upToFirst (fun terms => !Verdict.isYes (condition.groupVerdict accessors item terms))
    condition.groups).flatMap (condition.groupReads accessors item)

variable {condition accessors item}

/-- For one group of terms no property is read twice, and none before another in front of it. -/
theorem groupReads_prefix (terms : List String) :
    condition.groupReads accessors item terms <+: accessors :=
  upToFirst_prefix _ _

theorem propertyMatch_result (terms : List String) (accessor : Accessor) :
    (propertyMatch condition.check terms accessor item).result =
      condition.propertyVerdict item terms accessor := by
  rw [propertyMatch_eq]
  rfl

/-- Holding a value against terms reads nothing. -/
theorem reads_propertyMatch (check : Check) (terms : List String) (accessor : Accessor) :
    Trace.reads (propertyMatch check terms accessor item).trace =
      Trace.reads (accessor.read item).trace := by
  rw [propertyMatch_eq, Trace.reads_append]
  cases (accessor.read item).result with
  | error fault => simp [Trace.reads]
  | ok value => simp [Trace.reads, List.filterMap_map, Function.comp_def, Event.read?]

theorem someMatch_result (terms : List String) :
    (someMatch condition.check accessors terms item).result =
      condition.groupVerdict accessors item terms := by
  rw [someMatch, anyOf_eq, groupVerdict, List.map_map]
  simp only [Function.comp_def, propertyMatch_result]

theorem reads_someMatch (terms : List String) :
    Trace.reads (someMatch condition.check accessors terms item).trace =
      (condition.groupReads accessors item terms).flatMap fun accessor =>
        Trace.reads (accessor.read item).trace := by
  rw [someMatch, anyOf_eq, upToFirst_map, Trace.reads_flatMap, List.flatMap_map]
  simp only [propertyMatch_result, reads_propertyMatch]
  rfl

/-- A condition is the conjunction of its groups. -/
theorem holds_eq_allOf : condition.holds accessors item =
    allOf (condition.groups.map fun terms => someMatch condition.check accessors terms) item := by
  -- a disjunction over properties is a conjunction of one group
  have hone : condition.groups = [condition.terms] →
      someMatch condition.check accessors condition.terms item =
        allOf (condition.groups.map fun terms =>
          someMatch condition.check accessors terms) item := by
    intro h
    rw [h, List.map_singleton, allOf_singleton]
  unfold holds
  cases h : condition.operation with
  | containingAll =>
    show everyMatch condition.check accessors condition.terms item = _
    rw [everyMatch, groups, h, List.map_map]
    rfl
  | _ => exact hone (by rw [groups, h])

/-- A condition holds by its verdict. -/
theorem holds_result :
    (condition.holds accessors item).result = condition.verdict accessors item := by
  rw [holds_eq_allOf, allOf_eq, verdict, List.map_map]
  simp only [Function.comp_def, someMatch_result]

/-- A condition makes its reads. -/
theorem reads_holds : Trace.reads (condition.holds accessors item).trace =
    (condition.reads accessors item).flatMap fun accessor =>
      Trace.reads (accessor.read item).trace := by
  rw [holds_eq_allOf, allOf_eq, reads, upToFirst_map, Trace.reads_flatMap, List.flatMap_map,
    List.flatMap_assoc]
  simp only [someMatch_result, reads_someMatch]

/-- A condition ends in a fault where a read that it makes does. -/
theorem verdict_eq_error_iff {fault : Fault} :
    condition.verdict accessors item = .error fault ↔
      ∃ accessor ∈ condition.reads accessors item,
        (accessor.read item).result = .error fault := by
  -- what is decided from a value that was read is no fault
  have hproperty : ∀ terms accessor, condition.propertyVerdict item terms accessor = .error fault ↔
      (accessor.read item).result = .error fault := by
    intro terms accessor
    rw [propertyVerdict]
    cases (accessor.read item).result <;> simp [Except.map]
  have hgroup : ∀ terms, condition.groupVerdict accessors item terms = .error fault ↔
      ∃ accessor ∈ condition.groupReads accessors item terms,
        (accessor.read item).result = .error fault := by
    intro terms
    rw [groupVerdict, Verdict.any_map_eq_error_iff]
    simp only [hproperty]
    rfl
  rw [verdict, Verdict.every_map_eq_error_iff, reads]
  simp only [hgroup, List.mem_flatMap]
  constructor
  · rintro ⟨terms, hterms, accessor, haccessor, hfault⟩
    exact ⟨accessor, ⟨terms, hterms, haccessor⟩, hfault⟩
  · rintro ⟨accessor, ⟨terms, hterms, haccessor⟩, hfault⟩
    exact ⟨terms, hterms, accessor, haccessor, hfault⟩

end Condition

/-! ## All conditions -/

namespace Stage

variable (stage : Stage) (item : Value)

/-- The verdict of a stage on an item: whether all conditions hold. -/
def verdict : Verdict :=
  Verdict.every (stage.conditions.map fun condition => condition.verdict stage.accessors item)

/-- The properties that a stage reads: those of the conditions up to the first that fails. -/
def reads : List Accessor :=
  (upToFirst (fun condition => !Verdict.isYes (condition.verdict stage.accessors item))
    stage.conditions).flatMap fun condition => condition.reads stage.accessors item

/-- An item is tried to the verdict on it. -/
theorem accepts_result : (stage.accepts item).result = stage.verdict item := by
  rw [accepts, allOf_eq, verdict, List.map_map]
  simp only [Function.comp_def, Condition.holds_result]

/-- Trying an item makes the reads. -/
theorem reads_accepts : Trace.reads (stage.accepts item).trace =
    (stage.reads item).flatMap fun accessor => Trace.reads (accessor.read item).trace := by
  rw [accepts, allOf_eq, reads, upToFirst_map, Trace.reads_flatMap, List.flatMap_map,
    List.flatMap_assoc]
  simp only [Condition.holds_result, Condition.reads_holds]

variable {stage item}

/-- Trying an item ends in a fault where a read that is made does. -/
theorem verdict_eq_error_iff {fault : Fault} :
    stage.verdict item = .error fault ↔
      ∃ accessor ∈ stage.reads item, (accessor.read item).result = .error fault := by
  rw [verdict, Verdict.every_map_eq_error_iff, reads]
  simp only [Condition.verdict_eq_error_iff, List.mem_flatMap]
  constructor
  · rintro ⟨condition, hcondition, accessor, haccessor, hfault⟩
    exact ⟨accessor, ⟨condition, hcondition, haccessor⟩, hfault⟩
  · rintro ⟨accessor, ⟨condition, hcondition, haccessor⟩, hfault⟩
    exact ⟨condition, hcondition, accessor, haccessor, hfault⟩

end Stage

/-! ## All stages -/

namespace Search

/-- An item is tried by the stages of a search from the innermost outwards. -/
theorem accepts_result (s : Search) (item : Value) : (s.accepts item).result =
    Verdict.every (s.stages.reverse.map fun stage => stage.verdict item) := by
  rw [accepts, allOf_eq, List.map_map]
  simp only [Function.comp_def, Stage.accepts_result]

/-- A search accepts an item that all of its stages accept. -/
theorem accepts_result_eq_ok_true_iff {s : Search} {item : Value} :
    (s.accepts item).result = .ok true ↔ ∀ stage ∈ s.stages, stage.verdict item = .ok true := by
  rw [accepts_result, Verdict.every_map_eq_ok_true_iff]
  simp only [List.mem_reverse]

/-- Trying an item ends in a fault only where a property cannot be read. -/
theorem exists_read_of_accepts_eq_error {s : Search} {item : Value} {fault : Fault}
    (h : (s.accepts item).result = .error fault) :
    ∃ accessor : Accessor, (accessor.read item).result = .error fault := by
  rw [accepts_result, Verdict.every_map_eq_error_iff] at h
  obtain ⟨stage, -, hstage⟩ := h
  obtain ⟨accessor, -, hread⟩ := Stage.verdict_eq_error_iff.mp hstage
  exact ⟨accessor, hread⟩

end Search

/-! ## Chains -/

/-- The search that calls make evaluates the conditions of the calls from left to right. An item
is tried to their verdict on it, with their reads, which for one group of terms are properties
from the first one on; it ends in a fault where one of these reads does. Going through a source
yields the accepted items one by one, up to the first item that ends in a fault, if there is
one; an iteration of the whole source ends in that fault or else gathers the accepted items. -/
theorem Search.evaluates_left_to_right {stage : Stage} {calls : List Call} {s : Search}
    (hcalls : ((start stage).callAll calls).result = .ok s) :
    (∀ item,
      (s.accepts item).result = (stage.after calls).verdict item ∧
      Trace.reads (s.accepts item).trace =
        ((stage.after calls).reads item).flatMap (fun accessor =>
          Trace.reads (accessor.read item).trace) ∧
      (∀ condition ∈ (stage.after calls).conditions, ∀ terms ∈ condition.groups,
        condition.groupReads stage.accessors item terms <+: stage.accessors) ∧
      ∀ fault, (s.accepts item).result = .error fault ↔
        ∃ accessor ∈ (stage.after calls).reads item,
          (accessor.read item).result = .error fault) ∧
    (∀ rest, (s.advance pure rest).result =
      match rest.find? fun item => !Verdict.isNo ((stage.after calls).verdict item) with
      | some item => ((stage.after calls).verdict item).map fun _ => some item
      | none => .ok none) ∧
    ∀ items,
      (∀ fault, (s.items (.ok items)).result = .error fault ↔
        ∃ before item after, items = before ++ item :: after ∧
          (∀ earlier ∈ before, ((stage.after calls).verdict earlier).isOk = true) ∧
          (stage.after calls).verdict item = .error fault) ∧
      ((∀ item ∈ items, ((stage.after calls).verdict item).isOk = true) →
        (s.items (.ok items)).result =
          .ok (items.filter fun item => Verdict.isYes ((stage.after calls).verdict item))) ∧
      Trace.reads (s.items (.ok items)).trace =
        (upToFirst (fun item => !((stage.after calls).verdict item).isOk) items).flatMap fun item =>
          ((stage.after calls).reads item).flatMap fun accessor =>
            Trace.reads (accessor.read item).trace := by
  obtain ⟨-, rfl⟩ := callAll_result_eq_ok_iff.mp hcalls
  have haccepts : ∀ item,
      ((⟨stage.after calls, []⟩ : Search).accepts item).result = (stage.after calls).verdict item :=
    fun item => by rw [accepts_of_below_nil, Stage.accepts_result]
  have hreads : ∀ item, Trace.reads ((⟨stage.after calls, []⟩ : Search).accepts item).trace =
      ((stage.after calls).reads item).flatMap fun accessor =>
        Trace.reads (accessor.read item).trace :=
    fun item => by rw [accepts_of_below_nil, Stage.reads_accepts]
  refine ⟨fun item => ⟨haccepts item, hreads item,
      fun condition _ terms _ => condition.groupReads_prefix terms, fun fault => ?_⟩,
    fun rest => ?_, fun items => ⟨fun fault => ?_, fun hok => ?_, ?_⟩⟩
  · exact (haccepts item).symm ▸ Stage.verdict_eq_error_iff
  · have hadvance := advance_pure_result ⟨stage.after calls, []⟩ rest
    simp only [haccepts] at hadvance
    exact hadvance
  · rw [items_result_eq_error_iff]
    simp only [start, haccepts]
  · rw [items_result_of_isOk fun item hmem => by rw [start, haccepts]; exact hok item hmem]
    simp only [start, haccepts]
  · rw [items_reads]
    simp only [start, haccepts, hreads]

/-- A property that cannot be read does no harm behind one that matches. -/
theorem Search.evaluates_left_to_right_before_failing :
    ∃ s : Search,
      ((start ⟨[.computed (.constant "first" (.text "x")),
          .computed (.failing "second" (.missingKey "y"))], ⟨.ordinal, false⟩, .anywhere,
          []⟩).callAll [.filter .containing [.text "x"]]).result = .ok s ∧
        (s.accepts .null).result = .ok true ∧
        Trace.reads (s.accepts .null).trace = [("first", .null)] := by
  have hcalls : ((start ⟨[.computed (.constant "first" (.text "x")),
      .computed (.failing "second" (.missingKey "y"))], ⟨.ordinal, false⟩, .anywhere,
      []⟩).callAll [.filter .containing [.text "x"]]).result = .ok _ :=
    callAll_result_eq_ok_iff.mpr ⟨by decide +kernel, rfl⟩
  obtain ⟨hverdict, hreads, -⟩ := (evaluates_left_to_right hcalls).1 .null
  exact ⟨_, hcalls, hverdict.trans rfl, hreads.trans rfl⟩

end TermSearch
