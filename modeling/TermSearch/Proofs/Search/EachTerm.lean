import TermSearch.Proofs.Ranking.Hits
import TermSearch.Proofs.Search.Observation

/-!
# Conditions in Parts

A condition can be replaced by several conditions in a row that hold together where it does, with
the same evaluation, and that have its hits together. Nothing that is observed of a search tells
the difference, whatever conditions stand before and behind.

A condition that all terms are contained falls apart in this way, into one condition for each term.

## Main statements

- `Condition.isMadeOf_containing_each`: the parts of a condition that all terms are contained.
- `Search.observedAlike_of_parts`: a search with a condition and a search with its parts.
- `Search.containing_all_is_containing_each`: a call that all terms are contained, and calls that
  each of them is contained.
-/

namespace TermSearch

open Text (Placement)

/-! ## Parts of conditions -/

namespace Condition

/-- The hits of a condition in a value, if it is one that is counted. -/
def hitsIn (condition : Condition) (value : Option String) : Nat :=
  if condition.isCounted then condition.countIn value else 0

/-- A condition says the same as its parts together: it is tried like the conjunction of them, and
its hits in a value are theirs. -/
structure IsMadeOf (condition : Condition) (parts : List Condition) : Prop where
  nonempty : parts ≠ []
  holds : ∀ accessors item,
    condition.holds accessors item = allOf (parts.map fun part => part.holds accessors) item
  hits : ∀ value, condition.hitsIn value = (parts.map fun part => part.hitsIn value).sum

/-- A condition that all terms are contained is made of one condition for each of them. -/
theorem isMadeOf_containing_each {terms : List String} (h : terms ≠ []) (comparison : Comparison)
    (placement : Placement) :
    IsMadeOf ⟨.containingAll, terms, comparison, placement⟩
      (terms.map fun term => ⟨.containing, [term], comparison, placement⟩) where
  nonempty := by simpa using h
  holds accessors item := by
    rw [List.map_map]
    rfl
  hits value := by
    -- each part counts its own term, and the whole condition all of them
    have hpart : ∀ term, (⟨.containing, [term], comparison, placement⟩ : Condition).hitsIn value =
        comparison.countOccurrences placement value term := by
      intro term
      rw [hitsIn, isCounted, if_pos rfl, countIn_eq_sum, List.map_singleton, List.sum_singleton]
    rw [List.map_map, hitsIn, isCounted, if_pos rfl, countIn_eq_sum]
    simp only [Function.comp_def, hpart]

end Condition

namespace Stage

variable {accessors : List Accessor} {comparison : Comparison} {placement : Placement}
  {before after : List Condition} {condition : Condition} {parts : List Condition}

/-- Items are tried alike by a condition and by its parts, among the same other conditions. -/
theorem accepts_of_parts (h : condition.IsMadeOf parts) :
    (⟨accessors, comparison, placement, before ++ condition :: after⟩ : Stage).accepts =
      (⟨accessors, comparison, placement, before ++ (parts ++ after)⟩ : Stage).accepts := by
  funext item
  simp only [accepts, List.map_append, List.map_cons, allOf_append, allOf, h.holds]

end Stage

namespace Search

variable {accessors : List Accessor} {comparison : Comparison} {placement : Placement}
  {before after : List Condition} {condition : Condition} {parts : List Condition}
  {below : List Stage}

/-- Nothing that is observed of a search tells a condition from its parts. -/
theorem observedAlike_of_parts (h : condition.IsMadeOf parts) :
    ObservedAlike ⟨⟨accessors, comparison, placement, before ++ condition :: after⟩, below⟩
      ⟨⟨accessors, comparison, placement, before ++ (parts ++ after)⟩, below⟩ := by
  apply observedAlike_of_eq
  · -- the stages below are the same, and the outermost one tries items alike
    simp only [Search.accepts, stages, List.reverse_cons, List.map_append, List.map_cons,
      Stage.accepts_of_parts h]
  · -- either stage has a condition, and announces itself by properties and comparison only
    have hparts : (before ++ (parts ++ after)).isEmpty = false := by
      simp [h.nonempty]
    have hwhole : (before ++ condition :: after).isEmpty = false := by
      simp
    simp only [announcements, stages, List.filter_cons, hparts, hwhole, Bool.not_false, if_true,
      List.map_cons]
    rfl
  · refine countHits_congr rfl fun value => ?_
    have hsum := h.hits value
    simp only [Condition.hitsIn] at hsum
    simp only [hitsIn_eq, List.map_append, List.map_cons, List.sum_append, List.sum_cons, hsum]

end Search

/-! ## Calls -/

section

variable {stage : Stage} {rest : List Call}

/-- The stage behind a call that adds a condition, and further calls. -/
theorem Stage.after_filter_cons (operation : Operation) (terms : List Value) :
    stage.after (.filter operation terms :: rest) =
      ⟨stage.accessors, Call.comparisonAfter stage.comparison rest,
        Call.placementAfter stage.placement rest,
        stage.conditions ++
          ⟨operation, Terms.usable operation.keepsBlank terms, stage.comparison,
            stage.placement⟩ :: Call.conditions stage.comparison stage.placement rest⟩ := by
  rw [Stage.after, Call.conditions_cons]
  rfl

/-- The stage behind calls that each of some terms is contained, and further calls. -/
theorem Stage.after_containing_each {terms : List String}
    (h : ∀ term ∈ terms, Text.isBlank term = false) :
    stage.after (terms.map (fun term => .filter .containing [.text term]) ++ rest) =
      ⟨stage.accessors, Call.comparisonAfter stage.comparison rest,
        Call.placementAfter stage.placement rest,
        stage.conditions ++
          (terms.map (fun term => ⟨.containing, [term], stage.comparison, stage.placement⟩) ++
          Call.conditions stage.comparison stage.placement rest)⟩ := by
  -- a term that is not blank is the only usable one of its call
  have husable : ∀ term ∈ terms,
      (⟨.containing, Terms.usable false [.text term], stage.comparison, stage.placement⟩ :
        Condition) = ⟨.containing, [term], stage.comparison, stage.placement⟩ := by
    intro term hterm
    rw [Terms.usable_singleton_text (h term hterm)]
  rw [Stage.after, Call.conditions_append, Call.conditions_map_filter,
    Call.comparisonAfter_append, Call.comparisonAfter_map_filter, Call.placementAfter_append,
    Call.placementAfter_map_filter]
  exact congrArg (fun each => Stage.mk stage.accessors _ _ (stage.conditions ++ (each ++ _)))
    (List.map_congr_left husable)

end

/-- Calls that each of some terms is contained do not fail. -/
private theorem Call.findSome?_fault?_containing_each {terms : List String}
    (h : ∀ term ∈ terms, Text.isBlank term = false) :
    (terms.map fun term => filter .containing [.text term]).findSome? fault? = none := by
  rw [List.findSome?_eq_none_iff]
  intro call hcall
  obtain ⟨term, hterm, rfl⟩ := List.mem_map.mp hcall
  exact fault?_filter_singleton (h term hterm) .containing

/-- A call that all terms are contained does what calls do that each of the terms is contained that
are not blank: whatever search they are made on, and whatever calls follow, the same call fails with
the same fault, or else the two searches are observed alike. -/
theorem Search.containing_all_is_containing_each {s : Search} {terms : List String}
    (hterms : Text.nonBlank terms ≠ []) (rest : List Call) :
    match rest.findSome? Call.fault? with
    | some fault =>
      (s.callAll (.filter .containingAll (terms.map .text) :: rest)).result = .error fault ∧
      (s.callAll ((Text.nonBlank terms).map (fun term => .filter .containing [.text term]) ++
        rest)).result = .error fault
    | none => ∃ joint apart,
      (s.callAll (.filter .containingAll (terms.map .text) :: rest)).result = .ok joint ∧
      (s.callAll ((Text.nonBlank terms).map (fun term => .filter .containing [.text term]) ++
        rest)).result = .ok apart ∧
      joint.ObservedAlike apart := by
  have hblank : ∀ term ∈ Text.nonBlank terms, Text.isBlank term = false := by
    intro term hterm
    simpa using (List.mem_filter.mp hterm).2
  -- on either side, only the calls that follow can fail
  rw [callAll_result, callAll_result, List.findSome?_cons, Call.fault?_filter_text hterms,
    List.findSome?_append, Call.findSome?_fault?_containing_each hblank, Option.none_or]
  cases rest.findSome? Call.fault? with
  | some fault => exact ⟨rfl, rfl⟩
  | none =>
    have husable : Terms.usable Operation.containingAll.keepsBlank (terms.map .text) =
        Text.nonBlank terms := Terms.usable_map_text false terms
    refine ⟨_, _, rfl, rfl, ?_⟩
    rw [Stage.after_filter_cons, Stage.after_containing_each hblank, husable]
    exact observedAlike_of_parts
      (Condition.isMadeOf_containing_each hterms s.own.comparison s.own.placement)

/-- Two terms and a blank one, between other calls. -/
theorem Search.containing_all_is_containing_each_of_two :
    ∃ joint apart,
      ((start ⟨[.named "name", .named "city"], ⟨.ordinal, true⟩, .wholeWords, []⟩).callAll
        [.filter .containingAll [.text "ann", .text " ", .text "york"],
          .setPlacement (.text "any_occurrence"), .filter .startingWith [.text "A"]]).result =
        .ok joint ∧
      ((start ⟨[.named "name", .named "city"], ⟨.ordinal, true⟩, .wholeWords, []⟩).callAll
        [.filter .containing [.text "ann"], .filter .containing [.text "york"],
          .setPlacement (.text "any_occurrence"), .filter .startingWith [.text "A"]]).result =
        .ok apart ∧
      joint.ObservedAlike apart := by
  have hterms : Text.nonBlank ["ann", " ", "york"] = ["ann", "york"] := by decide +kernel
  have hrest : [Call.setPlacement (.text "any_occurrence"),
      .filter .startingWith [.text "A"]].findSome? Call.fault? = none := by decide +kernel
  have hsome : Text.nonBlank ["ann", " ", "york"] ≠ [] := by simp [hterms]
  have halike := @containing_all_is_containing_each
    (start ⟨[.named "name", .named "city"], ⟨.ordinal, true⟩, .wholeWords, []⟩) _ hsome
    [.setPlacement (.text "any_occurrence"), .filter .startingWith [.text "A"]]
  rw [hrest, hterms] at halike
  exact halike

end TermSearch
