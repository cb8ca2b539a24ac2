import TermSearch.Proofs.Search.Chain
import TermSearch.Proofs.Selector

/-!
# Beginning a Search

What a search can fail by. A search begins where its properties can be resolved and its settings are
known; the properties are looked at first, then the comparison, and the placement last, and the
first fault among them is what the beginning comes to.

Behind any calls, a search can be begun anew with the properties and the settings that it has by
then. So it makes no difference whether each call begins the search anew, and a call fails only by
what it is given itself.

## Main definitions

- `Selector.fault?`: why a choice cannot be resolved.
- `Call.Refuses`: the faults that a call comes to by what it is given.
- `Search.callAllAnew`: calls in a row, each of which begins the search anew.

## Main statements

- `faultOf_checkSelectors`: choices are refused for the first one that cannot be resolved.
- `Stage.faultOf_ofSelectors`: the fault that the beginning of a search comes to.
- `Search.callAllAnew_eq`: beginning the search anew at each call changes nothing.
- `Search.begun_search_stays_valid`: all of this together.
-/

namespace TermSearch

open Text (Placement)
open Call (faultOf)

/-! ## Choices -/

/-- Why a choice cannot be resolved, if it cannot. -/
def Selector.fault? (selector : Selector) : Option Fault :=
  faultOf selector.resolve

/-- Choices that are looked at one after the other are refused for the first one that cannot be
resolved. -/
theorem faultOf_checkEach (selectors : List Selector) :
    faultOf (checkEach selectors) = selectors.findSome? Selector.fault? := by
  induction selectors with
  | nil => rfl
  | cons selector rest ih =>
    rw [checkEach, Selector.check_eq, List.findSome?_cons, Selector.fault?]
    cases selector.resolve with
    | error fault => rfl
    | ok accessor => exact ih

/-- Choices are refused if there are none, and otherwise for the first one that cannot be
resolved. -/
theorem faultOf_checkSelectors (selectors : List Selector) :
    faultOf (checkSelectors selectors) =
      if selectors = [] then some .noProperties else selectors.findSome? Selector.fault? := by
  rw [checkSelectors, ← faultOf_checkEach]
  cases selectors <;> rfl

/-- Choices are refused if there are none or one of them cannot be resolved. -/
theorem checkSelectors_eq_error_iff {selectors : List Selector} :
    (∃ fault, checkSelectors selectors = .error fault) ↔
      selectors = [] ∨ ∃ selector ∈ selectors, ∃ fault, selector.resolve = .error fault := by
  simp only [← Call.faultOf_eq_some_iff, faultOf_checkSelectors]
  split
  · next hnil => simp [hnil]
  · next hne =>
    rw [← Option.isSome_iff_exists, List.findSome?_isSome_iff]
    simp only [hne, false_or, Option.isSome_iff_exists, Selector.fault?]

/-! ## Settings -/

/-- A value that chooses no comparison is named by the fault. -/
theorem Comparison.eq_of_ofValue_eq_error {v : Value} {fault : Fault}
    (h : ofValue v = .error fault) : fault = .unknownComparison v.display := by
  cases v with
  | text word =>
    rw [ofValue] at h
    split at h
    · simp at h
    · exact (Except.error.inj h).symm
  | _ => exact (Except.error.inj h).symm

/-- A value that chooses no placement is named by the fault. -/
theorem Text.Placement.eq_of_ofValue_eq_error {v : Value} {fault : Fault}
    (h : ofValue v = .error fault) : fault = .unknownPlacement v.display := by
  cases v with
  | text word =>
    rw [ofValue] at h
    split at h
    · simp at h
    · exact (Except.error.inj h).symm
  | _ => exact (Except.error.inj h).symm

/-! ## Beginnings -/

namespace Stage

/-- The fault of a beginning is that of the choices, or else that of the comparison, or else that of
the placement. -/
theorem faultOf_ofSelectors (selectors : List Selector) (comparison placement : Value) :
    faultOf (ofSelectors selectors comparison placement) =
      (faultOf (checkSelectors selectors)).or
        ((faultOf (Comparison.ofValue comparison)).or (faultOf (Placement.ofValue placement))) := by
  unfold ofSelectors
  cases hcheck : checkSelectors selectors with
  | error fault => rfl
  | ok _ =>
    -- choices that pass their checks can be resolved
    rw [Selector.mapM_resolve_of_check (checkSelectors_eq_ok_iff.mp hcheck).2]
    cases Comparison.ofValue comparison with
    | error fault => rfl
    | ok chosen => cases Placement.ofValue placement <;> rfl

/-- The properties of a stage are those that the choices stand for, in their order. -/
theorem accessors_of_ofSelectors {selectors : List Selector} {comparison placement : Value}
    {stage : Stage} (h : ofSelectors selectors comparison placement = .ok stage) :
    stage.accessors = selectors.filterMap Selector.accessor? := by
  obtain ⟨hcheck, hresolve, -⟩ := ofSelectors_eq_ok_iff.mp h
  rw [Selector.mapM_resolve_of_check (checkSelectors_eq_ok_iff.mp hcheck).2] at hresolve
  exact (Except.ok.inj hresolve).symm

/-- Properties whose names are not blank can be searched over. -/
theorem ofSelectors_names {names : List String} {comparison placement : Value} {c : Comparison}
    {p : Placement} (hne : names ≠ []) (hblank : ∀ name ∈ names, Text.isBlank name = false)
    (hcomparison : Comparison.ofValue comparison = .ok c)
    (hplacement : Placement.ofValue placement = .ok p) :
    ofSelectors (names.map .named) comparison placement = .ok ⟨names.map .named, c, p, []⟩ := by
  have hcheck : ∀ selector ∈ names.map Selector.named, selector.check = .ok () := by
    intro selector hmem
    obtain ⟨name, hname, rfl⟩ := List.mem_map.mp hmem
    rw [Selector.check, hblank name hname]
    rfl
  have hresolve : ∀ name ∈ names,
      (Selector.named name).accessor? = some (Accessor.named name) := by
    intro name hname
    rw [Selector.accessor?, Selector.resolve, Accessor.ofSelector, hblank name hname]
    · rfl
    · intro v h
      cases h
  refine ofSelectors_eq_ok_iff.mpr ⟨checkSelectors_eq_ok_iff.mpr ⟨by simpa using hne, hcheck⟩, ?_,
    hcomparison, hplacement, rfl⟩
  rw [Selector.mapM_resolve_of_check hcheck, List.filterMap_map, ← List.filterMap_eq_map]
  exact congrArg Except.ok (List.filterMap_congr hresolve)

/-- The stage as a search begins with it that is given its properties and the words of its settings,
with its conditions. -/
def remade (stage : Stage) : Except Fault Stage := do
  let begun ← ofSelectors (stage.accessors.map .accessor) (.text stage.comparison.label)
    (.text stage.placement.label)
  pure { begun with conditions := stage.conditions }

/-- A stage with a property is made again as it is. -/
theorem remade_eq {stage : Stage} (h : stage.accessors ≠ []) : stage.remade = .ok stage := by
  have hcheck : ∀ selector ∈ stage.accessors.map Selector.accessor, selector.check = .ok () := by
    intro selector hmem
    obtain ⟨accessor, -, rfl⟩ := List.mem_map.mp hmem
    rfl
  have hresolve : (stage.accessors.map Selector.accessor).filterMap Selector.accessor? =
      stage.accessors := by
    rw [List.filterMap_map]
    exact List.filterMap_some
  have hbegun : ofSelectors (stage.accessors.map .accessor) (.text stage.comparison.label)
      (.text stage.placement.label) = .ok { stage with conditions := [] } := by
    refine ofSelectors_eq_ok_iff.mpr ⟨checkSelectors_eq_ok_iff.mpr ⟨by simpa using h, hcheck⟩, ?_,
      Comparison.ofValue_label _, Placement.ofValue_label _, rfl⟩
    rw [Selector.mapM_resolve_of_check hcheck, hresolve]
  rw [remade, hbegun]
  rfl

/-- A search begins with at least one property. -/
theorem accessors_ne_nil_of_ofSelectors {selectors : List Selector} {comparison placement : Value}
    {stage : Stage} (h : ofSelectors selectors comparison placement = .ok stage) :
    stage.accessors ≠ [] := by
  obtain ⟨hne, heach⟩ := checkSelectors_eq_ok_iff.mp (ofSelectors_eq_ok_iff.mp h).1
  obtain ⟨selector, hmem⟩ := List.exists_mem_of_ne_nil selectors hne
  obtain ⟨accessor, hresolve⟩ := Selector.exists_resolve_of_check (heach selector hmem)
  have haccessor : selector.accessor? = some accessor := by
    rw [Selector.accessor?, hresolve]
    rfl
  rw [accessors_of_ofSelectors h]
  exact List.ne_nil_of_mem (List.mem_filterMap.mpr ⟨selector, hmem, haccessor⟩)

end Stage

/-! ## Calls -/

/-- The faults that a call comes to by what it is given: a setting that is not known, or terms of
which none is left or that are no texts. -/
def Call.Refuses (call : Call) (fault : Fault) : Prop :=
  match call with
  | .setComparison v => fault = .unknownComparison v.display
  | .setPlacement v => fault = .unknownPlacement v.display
  | .filter _ _ => fault = .noTerms ∨ (∃ type, fault = .termNotText type) ∨ fault = .blankTerms

/-- A call fails by what it is given. -/
theorem Call.refuses_of_fault? {call : Call} {fault : Fault} (h : call.fault? = some fault) :
    call.Refuses fault := by
  cases call with
  | setComparison v => exact Comparison.eq_of_ofValue_eq_error (faultOf_eq_some_iff.mp h)
  | setPlacement v => exact Placement.eq_of_ofValue_eq_error (faultOf_eq_some_iff.mp h)
  | filter operation terms =>
    cases Terms.validate_eq_error_iff.mp (faultOf_eq_some_iff.mp h) with
    | notIterable _ helements => simp [Value.elements?] at helements
    | empty => exact .inl rfl
    | notText => exact .inr (.inl ⟨_, rfl⟩)
    | blank => exact .inr (.inr rfl)

/-- A call on texts fails only where all of them are blank, and the operation has no use for
those. -/
theorem Call.fault?_filter_map_text (operation : Operation) {terms : List String} (h : terms ≠ []) :
    (filter operation (terms.map .text)).fault? =
      if operation.keepsBlank = false ∧ Text.nonBlank terms = [] then some .blankTerms
      else none := by
  have hempty : (terms.map Value.text).isEmpty = false := by simpa using h
  have hvalidate : Terms.validate operation.keepsBlank (.list (terms.map .text)) =
      Terms.select operation.keepsBlank (terms.map .text) := rfl
  rw [fault?, hvalidate, Terms.select, hempty, Terms.texts_map_text]
  cases operation.keepsBlank with
  | true => rfl
  | false =>
    by_cases hblank : Text.nonBlank terms = []
    · simp [hblank, faultOf]
    · simp [hblank, faultOf]

namespace Search

/-- One call, behind which the search is begun anew with what it has by then. -/
def callAnew (s : Search) (call : Call) : Traced Event Search := do
  let next ← s.call call
  let own ← Traced.ofExcept next.own.remade
  pure { next with own }

/-- Calls one after the other, each of which begins the search anew. -/
def callAllAnew (s : Search) : List Call → Traced Event Search
  | [] => pure s
  | call :: rest => do
    let next ← s.callAnew call
    next.callAllAnew rest

/-- A call keeps the properties. -/
theorem accessors_of_call {s t : Search} {call : Call} (h : (s.call call).result = .ok t) :
    t.own.accessors = s.own.accessors := by
  rw [call_result] at h
  split at h
  · simp at h
  · obtain rfl := Except.ok.inj h
    rfl

/-- Beginning a search anew behind a call changes nothing, if the search has a property. -/
theorem callAnew_eq {s : Search} (h : s.own.accessors ≠ []) (call : Call) :
    s.callAnew call = s.call call := by
  rw [callAnew]
  cases hcall : (s.call call).result with
  | error fault =>
    rw [Traced.bind_of_result_error hcall]
    exact Traced.ext rfl hcall.symm
  | ok next =>
    have hnext : next.own.accessors ≠ [] := by rwa [accessors_of_call hcall]
    -- making the stage again gives the same stage, and makes no events known
    rw [Traced.bind_of_result_ok hcall, Stage.remade_eq hnext]
    exact Traced.ext (List.append_nil _) hcall.symm

/-- Beginning a search anew behind each of some calls changes nothing. -/
theorem callAllAnew_eq {s : Search} (h : s.own.accessors ≠ []) (calls : List Call) :
    s.callAllAnew calls = s.callAll calls := by
  -- along the calls, since each of them keeps the properties
  induction calls generalizing s with
  | nil => rfl
  | cons call rest ih =>
    rw [callAllAnew, callAll, callAnew_eq h]
    cases hcall : (s.call call).result with
    | error fault => rw [Traced.bind_of_result_error hcall, Traced.bind_of_result_error hcall]
    | ok next =>
      have hnext : next.own.accessors ≠ [] := by rwa [accessors_of_call hcall]
      rw [Traced.bind_of_result_ok hcall, Traced.bind_of_result_ok hcall, ih hnext]

/-- Calls in a row fail at one of them, which is made on the search behind the calls before it and
fails by what it is given. -/
theorem exists_refuses_of_callAll {s : Search} {calls : List Call} {fault : Fault}
    (h : (s.callAll calls).result = .error fault) :
    ∃ before call after t, calls = before ++ call :: after ∧ (s.callAll before).result = .ok t ∧
      (t.call call).result = .error fault ∧ call.Refuses fault := by
  rw [callAll_result] at h
  cases hfirst : calls.findSome? Call.fault? with
  | none => simp [hfirst] at h
  | some cause =>
    rw [hfirst] at h
    obtain rfl : cause = fault := Except.error.inj h
    -- the calls before the first one with a fault are made, and bring the search to that call
    obtain ⟨before, call, after, rfl, hcall, hbefore⟩ := List.findSome?_eq_some_iff.mp hfirst
    refine ⟨before, call, after, _, rfl, callAll_result_eq_ok_iff.mpr ⟨hbefore, rfl⟩, ?_,
      Call.refuses_of_fault? hcall⟩
    rw [call_result, hcall]

/-- Choices of properties are refused where there are none or one of them cannot be resolved, and if
there are any, for the first one that cannot; choices that are not refused can all be resolved. A
search begins, or fails for its choices, or else for its comparison, or else for its placement. A
search that has begun fails in no calls but for what one of these is given: terms, or the setting
that it chooses. It is all the same whether each call begins the search anew with what it has. -/
theorem begun_search_stays_valid (selectors : List Selector) (comparison placement : Value) :
    ((∃ fault, checkSelectors selectors = .error fault) ↔
      selectors = [] ∨ ∃ selector ∈ selectors, ∃ fault, selector.resolve = .error fault) ∧
    (faultOf (checkSelectors selectors) =
      if selectors = [] then some .noProperties
      else selectors.findSome? fun selector => faultOf selector.resolve) ∧
    (checkSelectors selectors = .ok () →
      ∃ accessors, selectors.mapM Selector.resolve = .ok accessors) ∧
    (faultOf (Stage.ofSelectors selectors comparison placement) =
      (faultOf (checkSelectors selectors)).or
        ((faultOf (Comparison.ofValue comparison)).or (faultOf (Placement.ofValue placement)))) ∧
    (∀ fault, Comparison.ofValue comparison = .error fault →
      fault = .unknownComparison comparison.display) ∧
    (∀ fault, Placement.ofValue placement = .error fault →
      fault = .unknownPlacement placement.display) ∧
    ∀ (s : Search) (calls : List Call),
      Stage.ofSelectors selectors comparison placement = .ok s.own →
      s.callAllAnew calls = s.callAll calls ∧
      ∀ fault, (s.callAll calls).result = .error fault →
        ∃ before call after t, calls = before ++ call :: after ∧
          (s.callAll before).result = .ok t ∧ (t.call call).result = .error fault ∧
          call.Refuses fault := by
  refine ⟨checkSelectors_eq_error_iff, faultOf_checkSelectors selectors, fun hcheck => ?_,
    Stage.faultOf_ofSelectors selectors comparison placement,
    fun fault => Comparison.eq_of_ofValue_eq_error, fun fault => Placement.eq_of_ofValue_eq_error,
    fun s calls hbegun => ⟨?_, fun fault => exists_refuses_of_callAll⟩⟩
  · exact ⟨_, Selector.mapM_resolve_of_check (checkSelectors_eq_ok_iff.mp hcheck).2⟩
  · exact callAllAnew_eq (Stage.accessors_ne_nil_of_ofSelectors hbegun) calls

end Search

end TermSearch
