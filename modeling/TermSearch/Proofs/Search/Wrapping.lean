import TermSearch.Proofs.Accessor.Wrapping
import TermSearch.Proofs.Search.Beginning
import TermSearch.Proofs.Search.Nesting

/-!
# Searches over Wrapped Accessors

A search whose choices of properties are wrapped is evaluated like the search without the wrappers.
Items are tried alike and hits are counted alike, since both only read the properties. What is left
of the wrappers are their names, which a search shows where it announces itself in the log.

## Main definitions

- `Stage.unwrapped`, `Search.unwrapped`: the accessors that are read through in the end.
- `Search.RanksAlike`: two searches that yield and rank the same items in the same way.

## Main statements

- `Search.ranksAlike_of_unwrapped`: searches that are the same without wrappers.
- `Stage.exists_ofSelectors_of_wrap`: the beginning of a search whose choices are wrapped.
- `Search.wrapping_is_transparent`: any calls on a search, with and without wrappers.
-/

namespace TermSearch

/-! ## Predicates -/

theorem propertyMatch_innermost (check : Check) (terms : List String) (accessor : Accessor) :
    propertyMatch check terms accessor.innermost = propertyMatch check terms accessor := by
  funext item
  rw [propertyMatch, propertyMatch, Accessor.read_innermost]

theorem someMatch_innermost (check : Check) (accessors : List Accessor) (terms : List String) :
    someMatch check (accessors.map Accessor.innermost) terms = someMatch check accessors terms := by
  rw [someMatch, someMatch, List.map_map]
  simp only [Function.comp_def, propertyMatch_innermost]

/-- A condition tries items alike with and without wrappers. -/
theorem Condition.holds_innermost (condition : Condition) (accessors : List Accessor) :
    condition.holds (accessors.map Accessor.innermost) = condition.holds accessors := by
  funext item
  rw [holds_eq_allOf, holds_eq_allOf]
  simp only [someMatch_innermost]

/-! ## Stages -/

namespace Stage

/-- The stage without the wrappers around its accessors. -/
def unwrapped (stage : Stage) : Stage :=
  { stage with accessors := stage.accessors.map Accessor.innermost }

theorem accepts_unwrapped (stage : Stage) : stage.unwrapped.accepts = stage.accepts := by
  unfold accepts unwrapped
  simp only [Condition.holds_innermost]

/-- Calls do the same to a stage with and without wrappers. -/
theorem after_unwrapped (stage : Stage) (calls : List Call) :
    (stage.after calls).unwrapped = stage.unwrapped.after calls := rfl

end Stage

/-! ## Searches -/

namespace Search

/-- The search without the wrappers around the accessors of its stages. -/
def unwrapped (s : Search) : Search :=
  ⟨s.own.unwrapped, s.below.map Stage.unwrapped⟩

theorem stages_unwrapped (s : Search) : s.unwrapped.stages = s.stages.map Stage.unwrapped := rfl

theorem accepts_unwrapped (s : Search) : s.unwrapped.accepts = s.accepts := by
  unfold Search.accepts
  rw [stages_unwrapped, ← List.map_reverse, List.map_map]
  simp only [Function.comp_def, Stage.accepts_unwrapped]

theorem isPlain_unwrapped (s : Search) : s.unwrapped.isPlain = s.isPlain := by
  rw [isPlain, stages_unwrapped, List.all_map]
  rfl

theorem countHits_unwrapped (s : Search) : s.unwrapped.countHits = s.countHits := by
  have hover : ∀ item accessors, s.unwrapped.countHitsOver item (accessors.map Accessor.innermost) =
      s.countHitsOver item accessors := by
    intro item accessors
    induction accessors with
    | nil => rfl
    | cons accessor rest ih =>
      rw [List.map_cons, countHitsOver, countHitsOver, ih, Accessor.read_innermost]
      rfl
  funext item
  exact hover item s.own.accessors

/-- Two searches yield and rank the same items, with the same events on the way and the same faults.
Only the announcements in front may differ. -/
structure RanksAlike (s t : Search) : Prop extends YieldsAlike s t where
  /-- The hits of an item are counted. -/
  countHits : ∀ item, s.countHits item = t.countHits item
  /-- The items of a source are yielded with their hits. -/
  ranked : ∀ source, (s.ranked source).result = (t.ranked source).result ∧
    ∃ trace, (s.ranked source).trace = s.announcements.map .logged ++ trace ∧
      (t.ranked source).trace = t.announcements.map .logged ++ trace
  /-- The next item is yielded with its hits. -/
  advanceRanked : ∀ rest, s.advance s.rank rest = t.advance t.rank rest
  /-- The items of a source are put in order by their hits. -/
  rankedByHits : ∀ source, (s.rankedByHits source).result = (t.rankedByHits source).result ∧
    ∃ trace, (s.rankedByHits source).trace = s.announcements.map .logged ++ trace ∧
      (t.rankedByHits source).trace = t.announcements.map .logged ++ trace

variable {s t : Search}

/-- Searches that try items alike and count hits alike rank alike. -/
theorem ranksAlike_of_eq (haccepts : s.accepts = t.accepts) (hplain : s.isPlain = t.isPlain)
    (hhits : s.countHits = t.countHits) : RanksAlike s t := by
  have hrank : s.rank = t.rank := by
    funext item
    rw [rank, rank, hhits]
  have hranked : ∀ source, (s.ranked source).result = (t.ranked source).result ∧
      ∃ trace, (s.ranked source).trace = s.announcements.map .logged ++ trace ∧
        (t.ranked source).trace = t.announcements.map .logged ++ trace := by
    intro source
    rw [Search.ranked, Search.ranked, hrank]
    exact traverse_alike haccepts t.rank source
  exact {
    yieldsAlike_of_eq haccepts hplain with
    countHits := fun item => congrFun hhits item
    ranked := hranked
    advanceRanked := fun rest => by rw [Search.advance, Search.advance, haccepts, hrank]
    rankedByHits := fun source => by
      obtain ⟨hresult, trace, hs, ht⟩ := hranked source
      rw [Search.rankedByHits, Search.rankedByHits]
      cases h : (t.ranked source).result with
      | error fault =>
        rw [Traced.bind_of_result_error h, Traced.bind_of_result_error (hresult.trans h)]
        exact ⟨rfl, trace, hs, ht⟩
      | ok results =>
        -- the order is put on record behind everything else
        rw [Traced.bind_of_result_ok h, Traced.bind_of_result_ok (hresult.trans h), hs, ht]
        exact ⟨rfl, _, List.append_assoc .., List.append_assoc ..⟩ }

/-- Searches that are the same without wrappers rank alike. -/
theorem ranksAlike_of_unwrapped (h : s.unwrapped = t.unwrapped) : RanksAlike s t := by
  apply ranksAlike_of_eq
  · rw [← accepts_unwrapped s, h, accepts_unwrapped]
  · rw [← isPlain_unwrapped s, h, isPlain_unwrapped]
  · rw [← countHits_unwrapped s, h, countHits_unwrapped]

end Search

/-! ## Beginnings -/

section

variable {selectors wrappers : List Selector}
  (h : List.Forall₂ (fun selector wrapper => ∃ n, selector.wrap n = .ok wrapper) selectors wrappers)
include h

/-- Wrapped choices are refused like the choices themselves. -/
theorem checkSelectors_of_wrap : checkSelectors wrappers = checkSelectors selectors := by
  have heach : checkEach wrappers = checkEach selectors := by
    induction h with
    | nil => rfl
    | cons hwrap _ ih =>
      obtain ⟨n, hwrap⟩ := hwrap
      rw [checkEach, checkEach, Selector.check_of_wrap hwrap, ih]
  cases h with
  | nil => rfl
  | cons => exact heach

/-- Wrapped choices stand for the accessors of the choices themselves, up to wrappers. -/
theorem innermost_accessors_of_wrap :
    (wrappers.filterMap Selector.accessor?).map Accessor.innermost =
      (selectors.filterMap Selector.accessor?).map Accessor.innermost := by
  rw [List.map_filterMap, List.map_filterMap]
  induction h with
  | nil => rfl
  | cons hwrap _ ih =>
    obtain ⟨n, hwrap⟩ := hwrap
    rw [List.filterMap_cons, List.filterMap_cons, Selector.innermost_accessor?_of_wrap hwrap, ih]

/-- What the beginning of a search fails by is the same with wrapped choices. -/
theorem Stage.faultOf_ofSelectors_of_wrap (comparison placement : Value) :
    Call.faultOf (ofSelectors wrappers comparison placement) =
      Call.faultOf (ofSelectors selectors comparison placement) := by
  rw [faultOf_ofSelectors, faultOf_ofSelectors, checkSelectors_of_wrap h]

/-- A search begins with wrapped choices where it does without the wrappers, and with the same
stage, up to wrappers. -/
theorem Stage.exists_ofSelectors_of_wrap {comparison placement : Value} {plain : Stage}
    (hplain : ofSelectors selectors comparison placement = .ok plain) :
    ∃ covered, ofSelectors wrappers comparison placement = .ok covered ∧
      covered.unwrapped = plain.unwrapped := by
  have hfault := faultOf_ofSelectors_of_wrap h comparison placement
  rw [hplain] at hfault
  obtain ⟨covered, hcovered⟩ := Call.faultOf_eq_none_iff.mp hfault
  refine ⟨covered, hcovered, ?_⟩
  have haccessors := innermost_accessors_of_wrap h
  rw [← accessors_of_ofSelectors hcovered, ← accessors_of_ofSelectors hplain] at haccessors
  -- the settings are those that were chosen, in both of them
  obtain ⟨-, -, hcomparison, hplacement, hconditions⟩ := ofSelectors_eq_ok_iff.mp hplain
  obtain ⟨-, -, hcomparison', hplacement', hconditions'⟩ := ofSelectors_eq_ok_iff.mp hcovered
  rw [hcomparison, Except.ok.injEq] at hcomparison'
  rw [hplacement, Except.ok.injEq] at hplacement'
  rw [unwrapped, unwrapped, haccessors, hcomparison', hplacement', hconditions, hconditions']

end

/-- A choice that can be resolved can be wrapped any number of times, and the accessor that it then
stands for reads like the innermost one: with the same result, by asking the same extractors, and
with faults that name the innermost one, or are its extractor's own failure. A search whose choices
are wrapped, each any number of times, begins or fails like the search without the wrappers. Any
calls on the two fail alike or make searches that yield and rank alike, over any source and over any
stages below that are the same up to wrappers. -/
theorem Search.wrapping_is_transparent {selectors wrappers : List Selector}
    (h : List.Forall₂ (fun selector wrapper => ∃ n, selector.wrap n = .ok wrapper)
      selectors wrappers)
    (comparison placement : Value) :
    (∀ (selector : Selector) (accessor : Accessor) (n : Nat), selector.resolve = .ok accessor →
      ∃ wrapper outer, selector.wrap n = .ok wrapper ∧ wrapper.resolve = .ok outer ∧
        ∀ item, outer.read item = accessor.innermost.read item ∧
          ∀ fault, (outer.read item).result = .error fault →
            fault.property? = some accessor.innermost.label ∨
              ∃ failure, fault = .failed failure) ∧
    match Stage.ofSelectors selectors comparison placement with
    | .error fault => Stage.ofSelectors wrappers comparison placement = .error fault
    | .ok plain => ∃ covered, Stage.ofSelectors wrappers comparison placement = .ok covered ∧
      ∀ (below below' : List Stage) (calls : List Call),
        below'.map Stage.unwrapped = below.map Stage.unwrapped →
        match calls.findSome? Call.fault? with
        | some fault =>
          ((⟨plain, below⟩ : Search).callAll calls).result = .error fault ∧
          ((⟨covered, below'⟩ : Search).callAll calls).result = .error fault
        | none => ∃ s t,
          ((⟨plain, below⟩ : Search).callAll calls).result = .ok s ∧
          ((⟨covered, below'⟩ : Search).callAll calls).result = .ok t ∧
          t.RanksAlike s := by
  refine ⟨fun selector accessor n hresolve => ?_, ?_⟩
  · obtain ⟨wrapper, outer, hwrap, houter, hsame⟩ := Selector.exists_resolve_wrap hresolve n
    refine ⟨wrapper, outer, hwrap, houter, fun item => ?_⟩
    rw [← hsame, Accessor.read_innermost]
    exact ⟨rfl, fun fault hfault => Accessor.property?_of_read_eq_error hfault⟩
  · cases hplain : Stage.ofSelectors selectors comparison placement with
    | error fault =>
      have hfault := Stage.faultOf_ofSelectors_of_wrap h comparison placement
      rw [hplain] at hfault
      exact Call.faultOf_eq_some_iff.mp hfault
    | ok plain =>
      obtain ⟨covered, hcovered, hown⟩ := Stage.exists_ofSelectors_of_wrap h hplain
      refine ⟨covered, hcovered, fun below below' calls hbelow => ?_⟩
      -- a call fails by what it is given, and otherwise keeps the accessors
      rw [callAll_result, callAll_result]
      cases calls.findSome? Call.fault? with
      | some fault => exact ⟨rfl, rfl⟩
      | none =>
        refine ⟨_, _, rfl, rfl, ranksAlike_of_unwrapped ?_⟩
        rw [unwrapped, unwrapped, Stage.after_unwrapped, Stage.after_unwrapped, hown, hbelow]

/-- A name that is wrapped twice. -/
theorem Search.wrapping_is_transparent_around_name :
    ∃ wrapper covered s t,
      (Selector.named "name").wrap 2 = .ok wrapper ∧
      Stage.ofSelectors [wrapper] (.text (Comparison.label ⟨.ordinal, false⟩))
        (.text Text.Placement.anywhere.label) = .ok covered ∧
      ((start ⟨[.named "name"], ⟨.ordinal, false⟩, .anywhere, []⟩).callAll
        [.filter .containing [.text "nn"]]).result = .ok s ∧
      ((start covered).callAll [.filter .containing [.text "nn"]]).result = .ok t ∧
      t.RanksAlike s := by
  have hblank : Text.isBlank "name" = false := by decide +kernel
  have hresolve : (Selector.named "name").resolve = .ok (.named "name") := by
    simp [Selector.resolve, Accessor.ofSelector, hblank]
  obtain ⟨wrapper, -, hwrap, -⟩ := Selector.exists_resolve_wrap hresolve 2
  have hcall : [Call.filter .containing [.text "nn"]].findSome? Call.fault? = none := by
    decide +kernel
  obtain ⟨-, hsearch⟩ := wrapping_is_transparent (.cons ⟨2, hwrap⟩ .nil)
    (.text (Comparison.label ⟨.ordinal, false⟩)) (.text Text.Placement.anywhere.label)
  rw [Stage.ofSelectors_named hblank] at hsearch
  obtain ⟨covered, hcovered, hcalls⟩ := hsearch
  have halike := hcalls [] [] [.filter .containing [.text "nn"]] rfl
  rw [hcall] at halike
  obtain ⟨s, t, hs, ht, hranks⟩ := halike
  exact ⟨wrapper, covered, s, t, hwrap, hcovered, hs, ht, hranks⟩

end TermSearch
