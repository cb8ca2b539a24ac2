import Mathlib.Data.List.Infix
import TermSearch.Proofs.Terms
import TermSearch.Search.Basic

/-!
# Chains of Calls

What calls make of a search, said of the calls alone. A setting in force behind some calls is
the last one that they choose, or else the one that was in force before them. A call that adds
a condition adds it under the settings in force behind the calls before it. A call fails by what
it is given, whatever search it is called on.

## Main definitions

- `Call.comparisonAfter`, `Call.placementAfter`: the settings in force behind calls.
- `Call.conditions`: the conditions that calls add.
- `Call.fault?`: why a call fails.
- `Stage.after`: a stage behind calls.

## Main statements

- `Search.callAll_result`: calls in a row come to the first fault, or to the stage behind them.
-/

namespace TermSearch

open Text (Placement)

namespace Call

/-! ## Settings in force -/

/-- The comparison that a call chooses. -/
def comparison? : Call → Option Comparison
  | .setComparison v => (Comparison.ofValue v).toOption
  | _ => none

/-- The placement that a call chooses. -/
def placement? : Call → Option Placement
  | .setPlacement v => (Placement.ofValue v).toOption
  | _ => none

/-- The comparison in force behind calls: the last one that they choose, or else `initial`. -/
def comparisonAfter (initial : Comparison) (calls : List Call) : Comparison :=
  (calls.filterMap comparison?).getLast?.getD initial

/-- The placement in force behind calls: the last one that they choose, or else `initial`. -/
def placementAfter (initial : Placement) (calls : List Call) : Placement :=
  (calls.filterMap placement?).getLast?.getD initial

@[simp] theorem comparisonAfter_nil (initial : Comparison) : comparisonAfter initial [] = initial :=
  rfl

@[simp] theorem placementAfter_nil (initial : Placement) : placementAfter initial [] = initial :=
  rfl

theorem comparisonAfter_append (initial : Comparison) (before after : List Call) :
    comparisonAfter initial (before ++ after) =
      comparisonAfter (comparisonAfter initial before) after := by
  rw [comparisonAfter, List.filterMap_append, List.getLast?_append]
  cases h : (after.filterMap comparison?).getLast? <;> simp [comparisonAfter, h]

theorem placementAfter_append (initial : Placement) (before after : List Call) :
    placementAfter initial (before ++ after) =
      placementAfter (placementAfter initial before) after := by
  rw [placementAfter, List.filterMap_append, List.getLast?_append]
  cases h : (after.filterMap placement?).getLast? <;> simp [placementAfter, h]

/-- Calls that add a condition leave the comparison. -/
theorem comparisonAfter_map_filter {α : Type} (initial : Comparison) (operation : Operation)
    (terms : α → List Value) (l : List α) :
    comparisonAfter initial (l.map fun a => .filter operation (terms a)) = initial := by
  simp [comparisonAfter, List.filterMap_map, Function.comp_def, comparison?]

/-- Calls that add a condition leave the placement. -/
theorem placementAfter_map_filter {α : Type} (initial : Placement) (operation : Operation)
    (terms : α → List Value) (l : List α) :
    placementAfter initial (l.map fun a => .filter operation (terms a)) = initial := by
  simp [placementAfter, List.filterMap_map, Function.comp_def, placement?]

/-! ## Conditions -/

/-- The condition that a call adds where the given settings are in force. -/
def condition? (comparison : Comparison) (placement : Placement) : Call → Option Condition
  | .filter operation terms =>
    some ⟨operation, Terms.usable operation.keepsBlank terms, comparison, placement⟩
  | _ => none

/-- The conditions that calls add, each one under the settings in force behind the calls before
it. -/
def conditions (comparison : Comparison) (placement : Placement) (calls : List Call) :
    List Condition :=
  (calls.inits.zip calls).filterMap fun (before, call) =>
    call.condition? (comparisonAfter comparison before) (placementAfter placement before)

section

variable {comparison : Comparison} {placement : Placement}

@[simp] theorem conditions_nil : conditions comparison placement [] = [] := rfl

/-- The conditions of the calls behind the first one are added under the settings behind it. -/
theorem conditions_cons (call : Call) (rest : List Call) :
    conditions comparison placement (call :: rest) =
      (call.condition? comparison placement).toList ++
        conditions (comparisonAfter comparison [call]) (placementAfter placement [call]) rest := by
  -- what is in force behind `call :: before` is what `before` makes of the settings behind `call`
  have hshift : ∀ (before : List Call) (next : Call),
      next.condition? (comparisonAfter comparison (call :: before))
          (placementAfter placement (call :: before)) =
        next.condition? (comparisonAfter (comparisonAfter comparison [call]) before)
          (placementAfter (placementAfter placement [call]) before) := by
    intro before next
    rw [← comparisonAfter_append, ← placementAfter_append]
    rfl
  -- so the calls behind the first one add what they add on a search with these settings
  have hrest : ((rest.inits.map (call :: ·)).zip rest).filterMap (fun (before, next) =>
      next.condition? (comparisonAfter comparison before) (placementAfter placement before)) =
        conditions (comparisonAfter comparison [call]) (placementAfter placement [call]) rest := by
    rw [List.zip_map_left, List.filterMap_map]
    exact List.filterMap_congr fun (before, next) _ => hshift before next
  rw [conditions, List.inits_cons, List.zip_cons_cons, List.filterMap_cons, hrest]
  cases h : call.condition? comparison placement <;> simp [h]

theorem conditions_append (before after : List Call) :
    conditions comparison placement (before ++ after) =
      conditions comparison placement before ++
        conditions (comparisonAfter comparison before) (placementAfter placement before) after := by
  induction before generalizing comparison placement with
  | nil => rfl
  | cons call rest ih =>
    rw [List.cons_append, conditions_cons, ih, conditions_cons, List.append_assoc,
      ← comparisonAfter_append, ← placementAfter_append]
    rfl

/-- A condition is added by a call with other calls before it and behind it. -/
theorem mem_conditions_iff {calls : List Call} {condition : Condition} :
    condition ∈ conditions comparison placement calls ↔
      ∃ before operation terms after, calls = before ++ .filter operation terms :: after ∧
        condition = ⟨operation, Terms.usable operation.keepsBlank terms,
          comparisonAfter comparison before, placementAfter placement before⟩ := by
  constructor
  · intro h
    induction calls generalizing comparison placement with
    | nil => simp at h
    | cons call rest ih =>
      rw [conditions_cons, List.mem_append] at h
      rcases h with h | h
      · -- the first call adds it, and no call is before that one
        cases call with
        | filter operation terms =>
          obtain rfl := by simpa [condition?] using h
          exact ⟨[], operation, terms, rest, rfl, rfl⟩
        | _ => simp [condition?] at h
      · -- a call behind the first one adds it, so the first one is among those before
        obtain ⟨before, operation, terms, after, rfl, rfl⟩ := ih h
        refine ⟨call :: before, operation, terms, after, rfl, ?_⟩
        rw [← comparisonAfter_append, ← placementAfter_append]
        rfl
  · rintro ⟨before, operation, terms, after, rfl, rfl⟩
    rw [conditions_append, conditions_cons]
    simp [condition?]

/-- Calls that all add a condition each leave the settings, so they add them all under the same. -/
theorem conditions_map_filter {α : Type} (operation : Operation) (terms : α → List Value)
    (l : List α) :
    conditions comparison placement (l.map fun a => .filter operation (terms a)) =
      l.map fun a => ⟨operation, Terms.usable operation.keepsBlank (terms a), comparison,
        placement⟩ := by
  induction l with
  | nil => rfl
  | cons a rest ih =>
    rw [List.map_cons, conditions_cons]
    exact congrArg _ ih

/-- Calls that choose settings add no condition. -/
theorem conditions_eq_nil {calls : List Call}
    (h : ∀ operation terms, .filter operation terms ∉ calls) :
    conditions comparison placement calls = [] := by
  rw [List.eq_nil_iff_forall_not_mem]
  intro condition hmem
  obtain ⟨before, operation, terms, after, rfl, -⟩ := mem_conditions_iff.mp hmem
  exact h operation terms (by simp)

/-- A call alone among calls that add no condition adds the only one. -/
theorem conditions_eq_singleton {before after : List Call} {operation : Operation}
    {terms : List Value}
    (h : ∀ operation terms, .filter operation terms ∉ before ++ after) :
    conditions comparison placement (before ++ .filter operation terms :: after) =
      [⟨operation, Terms.usable operation.keepsBlank terms, comparisonAfter comparison before,
        placementAfter placement before⟩] := by
  have hbefore := fun other others hmem => h other others (List.mem_append_left after hmem)
  have hafter := fun other others hmem => h other others (List.mem_append_right before hmem)
  rw [conditions_append, conditions_cons, conditions_eq_nil hbefore, conditions_eq_nil hafter]
  rfl

end

/-! ## Faults -/

/-- The fault that a result is. -/
def faultOf {α : Type} : Except Fault α → Option Fault
  | .ok _ => none
  | .error fault => some fault

theorem faultOf_eq_some_iff {α : Type} {result : Except Fault α} {fault : Fault} :
    faultOf result = some fault ↔ result = .error fault := by
  cases result <;> simp [faultOf]

theorem faultOf_eq_none_iff {α : Type} {result : Except Fault α} :
    faultOf result = none ↔ ∃ a, result = .ok a := by
  cases result <;> simp [faultOf]

/-- Why a call fails, if it does. -/
def fault? : Call → Option Fault
  | .setComparison v => faultOf (Comparison.ofValue v)
  | .setPlacement v => faultOf (Placement.ofValue v)
  | .filter operation terms => faultOf (Terms.validate operation.keepsBlank (.list terms))

/-- A call on terms that are not all blank does not fail. -/
theorem fault?_filter_text {operation : Operation} {terms : List String}
    (h : Text.nonBlank terms ≠ []) : (filter operation (terms.map .text)).fault? = none := by
  have husable : Terms.usable operation.keepsBlank (terms.map .text) ≠ [] := by
    rw [Terms.usable_map_text]
    split
    · rintro rfl
      exact h rfl
    · exact h
  have hvalid : Terms.validate operation.keepsBlank (.list (terms.map .text)) = .ok _ :=
    Terms.select_eq_ok_iff.mpr ⟨⟨terms, rfl⟩, rfl, husable⟩
  rw [fault?, hvalid, faultOf]

/-- A call on a single text that is not blank does not fail. -/
theorem fault?_filter_singleton {term : String} (h : Text.isBlank term = false)
    (operation : Operation) : (filter operation [.text term]).fault? = none := by
  have hsome : Text.nonBlank [term] ≠ [] := by simp [Text.nonBlank, h]
  exact fault?_filter_text hsome

end Call

/-! ## Searches behind calls -/

/-- The stage behind calls. -/
def Stage.after (stage : Stage) (calls : List Call) : Stage where
  accessors := stage.accessors
  comparison := Call.comparisonAfter stage.comparison calls
  placement := Call.placementAfter stage.placement calls
  conditions := stage.conditions ++ Call.conditions stage.comparison stage.placement calls

theorem Stage.after_nil (stage : Stage) : stage.after [] = stage := by
  simp [Stage.after]

/-- Behind one call, the settings are those that the call chooses, or else stay. -/
theorem Stage.after_singleton (stage : Stage) (call : Call) :
    stage.after [call] =
      ⟨stage.accessors, call.comparison?.getD stage.comparison,
        call.placement?.getD stage.placement,
        stage.conditions ++ (call.condition? stage.comparison stage.placement).toList⟩ := by
  rw [Stage.after, Call.conditions_cons, Call.conditions_nil, List.append_nil]
  cases hcomparison : call.comparison? <;> cases hplacement : call.placement? <;>
    simp [Call.comparisonAfter, Call.placementAfter, hcomparison, hplacement]

theorem Stage.after_append (stage : Stage) (before after : List Call) :
    stage.after (before ++ after) = (stage.after before).after after := by
  simp only [Stage.after, Call.comparisonAfter_append, Call.placementAfter_append,
    Call.conditions_append, List.append_assoc]

/-- A search begins where the chosen properties can be searched over and both settings are known,
with these settings and no condition. -/
theorem Stage.ofSelectors_eq_ok_iff {selectors : List Selector} {comparison placement : Value}
    {stage : Stage} :
    ofSelectors selectors comparison placement = .ok stage ↔
      checkSelectors selectors = .ok () ∧
        selectors.mapM Selector.resolve = .ok stage.accessors ∧
        Comparison.ofValue comparison = .ok stage.comparison ∧
        Placement.ofValue placement = .ok stage.placement ∧ stage.conditions = [] := by
  obtain ⟨accessors, c, p, conditions⟩ := stage
  unfold ofSelectors
  cases checkSelectors selectors with
  | error fault => simp [bind, Except.bind]
  | ok _ =>
    cases selectors.mapM Selector.resolve with
    | error fault => simp [bind, Except.bind]
    | ok resolved =>
      cases Comparison.ofValue comparison with
      | error fault => simp [bind, Except.bind]
      | ok chosen =>
        cases Placement.ofValue placement <;> simp [bind, Except.bind, pure, Except.pure, eq_comm]

/-- A search that begins with chosen settings has these settings and no condition. -/
theorem Stage.ofSelectors_label {selectors : List Selector} {comparison : Comparison}
    {placement : Placement} {stage : Stage}
    (h : ofSelectors selectors (.text comparison.label) (.text placement.label) = .ok stage) :
    stage.comparison = comparison ∧ stage.placement = placement ∧ stage.conditions = [] := by
  obtain ⟨-, -, hcomparison, hplacement, hconditions⟩ := ofSelectors_eq_ok_iff.mp h
  rw [Comparison.ofValue_label] at hcomparison
  rw [Placement.ofValue_label] at hplacement
  exact ⟨(Except.ok.inj hcomparison).symm, (Except.ok.inj hplacement).symm, hconditions⟩

/-- A property whose name is not blank can be searched over, with any settings. -/
theorem Stage.ofSelectors_named {name : String} (h : Text.isBlank name = false) (c : Comparison)
    (p : Placement) :
    ofSelectors [.named name] (.text c.label) (.text p.label) = .ok ⟨[.named name], c, p, []⟩ := by
  have hcheck : checkSelectors [.named name] = .ok () := by
    simp [checkSelectors, checkEach, Selector.check, h]
  have hresolve : [Selector.named name].mapM Selector.resolve = .ok [.named name] := by
    simp [Selector.resolve, Accessor.ofSelector, h]
  exact ofSelectors_eq_ok_iff.mpr
    ⟨hcheck, hresolve, Comparison.ofValue_label c, Placement.ofValue_label p, rfl⟩

/-- Properties that can be searched over can be so with any settings. -/
theorem Stage.ofSelectors_of_label {selectors : List Selector} {comparison placement : Value}
    {stage : Stage} (h : ofSelectors selectors comparison placement = .ok stage) (c : Comparison)
    (p : Placement) :
    ofSelectors selectors (.text c.label) (.text p.label) = .ok ⟨stage.accessors, c, p, []⟩ := by
  obtain ⟨hcheck, hresolve, -, -, -⟩ := ofSelectors_eq_ok_iff.mp h
  exact ofSelectors_eq_ok_iff.mpr
    ⟨hcheck, hresolve, Comparison.ofValue_label c, Placement.ofValue_label p, rfl⟩

namespace Search

/-- A call adds a condition on the terms that validation gives. -/
theorem filter_of_validate {s : Search} {operation : Operation} {terms : List Value}
    {kept : List String} (h : Terms.validate operation.keepsBlank (.list terms) = .ok kept) :
    s.filter operation terms =
      ⟨[.logged (s.own.logRecord (operation.announcement kept.length))],
        .ok (s.addCondition (s.condition operation kept))⟩ := by
  rw [filter, h, Traced.bind_of_result_ok (Traced.result_ofExcept _),
    Traced.bind_of_result_ok (Traced.result_record _)]
  rfl

/-- One call fails, or comes to the stage behind it; the stages below stay as they are. -/
theorem call_result (s : Search) (call : Call) :
    (s.call call).result =
      match call.fault? with
      | some fault => .error fault
      | none => .ok ⟨s.own.after [call], s.below⟩ := by
  rw [Stage.after_singleton]
  cases call with
  | setComparison v =>
    simp only [Search.call, Call.fault?, Call.comparison?, Call.placement?, Call.condition?]
    cases Comparison.ofValue v with
    | error fault => rfl
    | ok comparison => simp [Call.faultOf, Except.map, Except.toOption, withComparison]
  | setPlacement v =>
    simp only [Search.call, Call.fault?, Call.comparison?, Call.placement?, Call.condition?]
    cases Placement.ofValue v with
    | error fault => rfl
    | ok placement => simp [Call.faultOf, Except.map, Except.toOption, withPlacement]
  | filter operation terms =>
    rw [Search.call, Call.fault?]
    cases h : Terms.validate operation.keepsBlank (.list terms) with
    | error fault =>
      rw [filter, h, Traced.bind_of_result_error (Traced.result_ofExcept _)]
      rfl
    | ok kept =>
      rw [filter_of_validate h]
      -- what validation keeps are the usable terms, so the condition added is the call's own
      obtain ⟨-, rfl, -⟩ := Terms.select_eq_ok_iff.mp h
      rfl

/-- Calls in a row come to the first fault among them, or else to the stage behind them all. -/
theorem callAll_result (s : Search) (calls : List Call) :
    (s.callAll calls).result =
      match calls.findSome? Call.fault? with
      | some fault => .error fault
      | none => .ok ⟨s.own.after calls, s.below⟩ := by
  -- the search that a call is made on is the one behind the calls before it
  induction calls generalizing s with
  | nil => simp [callAll, Stage.after_nil]
  | cons call rest ih =>
    have hcall := s.call_result call
    rw [callAll, List.findSome?_cons]
    cases h : call.fault? with
    | some fault =>
      rw [h] at hcall
      rw [Traced.bind_of_result_error hcall]
    | none =>
      rw [h] at hcall
      rw [Traced.bind_of_result_ok hcall, ih, ← Stage.after_append]
      rfl

/-- Calls in a row succeed where each of them does, and then come to the stage behind them. -/
theorem callAll_result_eq_ok_iff {s t : Search} {calls : List Call} :
    (s.callAll calls).result = .ok t ↔
      (∀ call ∈ calls, call.fault? = none) ∧ t = ⟨s.own.after calls, s.below⟩ := by
  rw [callAll_result]
  cases h : calls.findSome? Call.fault? with
  | some fault =>
    obtain ⟨call, hmem, hfault⟩ := List.exists_of_findSome?_eq_some h
    constructor
    · simp
    · rintro ⟨hnone, -⟩
      rw [hnone call hmem] at hfault
      simp at hfault
  | none =>
    rw [List.findSome?_eq_none_iff] at h
    constructor
    · intro heq
      exact ⟨h, (Except.ok.inj heq).symm⟩
    · rintro ⟨-, rfl⟩
      rfl

end Search

end TermSearch
