import TermSearch.Proofs.Search.Evaluation
import TermSearch.Proofs.Text.Occurrence

/-!
# Filtering

What a search yields where every property can be read. Then only the texts of an item matter,
and a condition asks something of them that does not depend on the order of evaluation: some
text matches some term, or each term is matched by some text.

## Main definitions

- `Operation.Matches`: a text matches a term.
- `Operation.Asks`: what an operation asks of the texts of an item.
- `Stage.texts`: the texts that the properties of an item read as.

## Main statements

- `Search.items_of_chain`: the search that calls make yields the items that satisfy what every
  call asks, under the settings in force when it was made.
-/

namespace TermSearch

open Text (Placement)

/-! ## Texts of items -/

/-- The text that a property of an item reads as. -/
def Accessor.textOf (accessor : Accessor) (item : Value) : Option String :=
  (accessor.read item).result.toOption.join

namespace Stage

/-- Every property of the item reads as a text or as nothing. -/
def Readable (stage : Stage) (item : Value) : Prop :=
  ∀ accessor ∈ stage.accessors, ∃ value, (accessor.read item).result = .ok value

/-- A named property can be read that an item has as a text. -/
theorem readable_named (name text : String) {comparison : Comparison} {placement : Placement}
    {conditions : List Condition} :
    (⟨[.named name], comparison, placement, conditions⟩ : Stage).Readable
      (.map [(name, .text text)]) := by
  intro accessor haccessor
  obtain rfl := List.mem_singleton.mp haccessor
  refine ⟨some text, ?_⟩
  simp [Accessor.read, Accessor.lookup, Fields.get?, Except.mapError, Accessor.settle]

/-- The texts that the properties of an item read as, in order. -/
def texts (stage : Stage) (item : Value) : List String :=
  stage.accessors.filterMap fun accessor => accessor.textOf item

/-- Calls leave the properties. -/
@[simp] theorem texts_after (stage : Stage) (calls : List Call) (item : Value) :
    (stage.after calls).texts item = stage.texts item := rfl

end Stage

/-! ## What conditions ask -/

/-- A text matches a term, in the way of an operation. -/
def Operation.Matches (operation : Operation) (comparison : Comparison) (placement : Placement)
    (text term : String) : Prop :=
  match operation with
  | .containing | .containingAll =>
    Text.Occurs placement (comparison.normalForm term.toList) (comparison.normalForm text.toList)
  | .startingWith => comparison.normalForm term.toList <+: comparison.normalForm text.toList
  | .endingWith => comparison.normalForm term.toList <:+ comparison.normalForm text.toList
  | .equalTo => comparison.normalForm text.toList = comparison.normalForm term.toList

/-- What an operation on the given terms asks of texts. Only equality regards blank terms. -/
def Operation.Asks (operation : Operation) (comparison : Comparison) (placement : Placement)
    (terms : List Value) (texts : List String) : Prop :=
  match operation with
  | .containingAll =>
    ∀ term, .text term ∈ terms → Text.isBlank term = false →
      ∃ text ∈ texts, operation.Matches comparison placement text term
  | .equalTo =>
    ∃ term, .text term ∈ terms ∧ ∃ text ∈ texts, operation.Matches comparison placement text term
  | _ =>
    ∃ term, .text term ∈ terms ∧ Text.isBlank term = false ∧
      ∃ text ∈ texts, operation.Matches comparison placement text term

namespace Condition

/-- A value that is absent matches nothing. -/
theorem check_none (condition : Condition) (term : String) :
    condition.check none term = false := by
  unfold check
  cases condition.operation <;> rfl

theorem check_some_eq_true_iff {condition : Condition} {text term : String} :
    condition.check (some text) term = true ↔
      condition.operation.Matches condition.comparison condition.placement text term := by
  unfold check
  cases condition.operation with
  | containing => exact Text.occurs_eq_true_iff
  | containingAll => exact Text.occurs_eq_true_iff
  | startingWith => exact List.isPrefixOf_iff_prefix
  | endingWith => exact List.isSuffixOf_iff_suffix
  | equalTo => exact beq_iff_eq

/-- Whether texts satisfy a condition: in every group, some text matches some term. -/
def holdsOn (condition : Condition) (texts : List String) : Bool :=
  condition.groups.all fun terms =>
    texts.any fun text => terms.any fun term => condition.check (some text) term

/-- Where every property can be read, the verdict of a condition is about the texts. -/
theorem verdict_of_readable {condition : Condition} {accessors : List Accessor} {item : Value}
    (h : ∀ accessor ∈ accessors, ∃ value, (accessor.read item).result = .ok value) :
    condition.verdict accessors item =
      .ok (condition.holdsOn (accessors.filterMap fun accessor => accessor.textOf item)) := by
  -- a property that reads as nothing matches no term, so only the texts are left
  have hgroup : ∀ terms, condition.groupVerdict accessors item terms =
      .ok ((accessors.filterMap fun accessor => accessor.textOf item).any fun text =>
        terms.any fun term => condition.check (some text) term) := by
    intro terms
    have hproperty : ∀ accessor ∈ accessors, condition.propertyVerdict item terms accessor =
        .ok ((accessor.textOf item).any fun text =>
          terms.any fun term => condition.check (some text) term) := by
      intro accessor hmem
      obtain ⟨value, hvalue⟩ := h accessor hmem
      rw [propertyVerdict, Accessor.textOf, hvalue]
      cases value with
      | none => simp [Except.map, Except.toOption, check_none]
      | some text => rfl
    rw [groupVerdict, List.map_congr_left hproperty, Verdict.any_map_ok, List.any_filterMap]
    rfl
  rw [verdict, funext hgroup, Verdict.every_map_ok]
  rfl

/-- Where terms are matched together, some text has to match some usable term. -/
theorem holdsOn_together {condition : Condition} {texts : List String}
    (h : condition.groups = [condition.terms]) :
    condition.holdsOn texts = true ↔
      ∃ text ∈ texts, ∃ term ∈ condition.terms,
        condition.operation.Matches condition.comparison condition.placement text term := by
  rw [holdsOn, h]
  simp only [List.all_cons, List.all_nil, Bool.and_true, List.any_eq_true, check_some_eq_true_iff]

/-- Where each term is matched on its own, some text has to match it. -/
theorem holdsOn_each {condition : Condition} {texts : List String}
    (h : condition.groups = condition.terms.map fun term => [term]) :
    condition.holdsOn texts = true ↔
      ∀ term ∈ condition.terms, ∃ text ∈ texts,
        condition.operation.Matches condition.comparison condition.placement text term := by
  rw [holdsOn, h]
  simp only [List.all_map, Function.comp_def, List.all_eq_true, List.any_eq_true, List.any_cons,
    List.any_nil, Bool.or_false, check_some_eq_true_iff]

/-- A condition made by a call holds on texts by what the operation asks of them. -/
theorem holdsOn_eq_true_iff {operation : Operation} {terms : List Value} {comparison : Comparison}
    {placement : Placement} {texts : List String} :
    (⟨operation, Terms.usable operation.keepsBlank terms, comparison, placement⟩ :
        Condition).holdsOn texts = true ↔
      operation.Asks comparison placement terms texts := by
  cases operation with
  | containingAll =>
    rw [holdsOn_each rfl, Operation.Asks]
    simp only [Terms.mem_usable_iff]
    constructor
    · intro h term hterm hblank
      exact h term ⟨hterm, .inr hblank⟩
    · rintro h term ⟨hterm, hkept | hblank⟩
      · exact absurd hkept (by decide)
      · exact h term hterm hblank
  | equalTo =>
    rw [holdsOn_together rfl]
    simp only [Terms.mem_usable_iff]
    constructor
    · rintro ⟨text, htext, term, ⟨hterm, -⟩, hmatch⟩
      exact ⟨term, hterm, text, htext, hmatch⟩
    · rintro ⟨term, hterm, text, htext, hmatch⟩
      exact ⟨text, htext, term, ⟨hterm, .inl rfl⟩, hmatch⟩
  | _ =>
    rw [holdsOn_together rfl]
    simp only [Terms.mem_usable_iff]
    constructor
    · rintro ⟨text, htext, term, ⟨hterm, hkept | hblank⟩, hmatch⟩
      · exact absurd hkept (by decide)
      · exact ⟨term, hterm, hblank, text, htext, hmatch⟩
    · rintro ⟨term, hterm, hblank, text, htext, hmatch⟩
      exact ⟨text, htext, term, ⟨hterm, .inr hblank⟩, hmatch⟩

end Condition

/-- Where every property can be read, the verdict on an item is that all conditions hold. -/
theorem Stage.verdict_of_readable {stage : Stage} {item : Value} (h : stage.Readable item) :
    stage.verdict item =
      .ok (stage.conditions.all fun condition => condition.holdsOn (stage.texts item)) := by
  rw [verdict, funext fun condition => Condition.verdict_of_readable h, Verdict.every_map_ok]
  rfl

/-- Where every property of every stage can be read, an item is accepted if all conditions hold. -/
theorem Search.accepts_of_readable {s : Search} {item : Value}
    (h : ∀ stage ∈ s.stages, stage.Readable item) :
    (s.accepts item).result = .ok (s.stages.all fun stage =>
      stage.conditions.all fun condition => condition.holdsOn (stage.texts item)) := by
  have hverdicts : s.stages.reverse.map (fun stage => stage.verdict item) =
      s.stages.reverse.map fun stage =>
        .ok (stage.conditions.all fun condition => condition.holdsOn (stage.texts item)) :=
    List.map_congr_left fun stage hmem =>
      Stage.verdict_of_readable (h stage (List.mem_reverse.mp hmem))
  rw [accepts_result, hverdicts, Verdict.every_map_ok, List.all_reverse]

/-- The search that calls make yields the items of its source, in order, that satisfy what every
call asks. What a call asks is judged under the settings in force behind the calls before it, so
that later settings do not reach back. -/
theorem Search.items_of_chain {selectors : List Selector} {comparison : Comparison}
    {placement : Placement} {stage : Stage} {calls : List Call} {s : Search} {items : List Value}
    (hstage : Stage.ofSelectors selectors (.text comparison.label) (.text placement.label) =
      .ok stage)
    (hcalls : ((start stage).callAll calls).result = .ok s)
    (hread : ∀ item ∈ items, stage.Readable item) :
    ∃ keeps : Value → Bool,
      (s.items (.ok items)).result = .ok (items.filter keeps) ∧
      ∀ item ∈ items, keeps item = true ↔
        ∀ before operation terms after, calls = before ++ .filter operation terms :: after →
          operation.Asks (Call.comparisonAfter comparison before)
            (Call.placementAfter placement before) terms (stage.texts item) := by
  obtain ⟨rfl, rfl, hconditions⟩ := Stage.ofSelectors_label hstage
  obtain ⟨-, rfl⟩ := callAll_result_eq_ok_iff.mp hcalls
  have hverdict : ∀ item ∈ items, ((⟨stage.after calls, []⟩ : Search).accepts item).result =
      .ok ((stage.after calls).conditions.all fun condition =>
        condition.holdsOn (stage.texts item)) := by
    intro item hmem
    have hreadable : (stage.after calls).Readable item := hread item hmem
    rw [accepts_of_below_nil, Stage.accepts_result, Stage.verdict_of_readable hreadable,
      Stage.texts_after]
  refine ⟨fun item => (stage.after calls).conditions.all fun condition =>
    condition.holdsOn (stage.texts item), ?_, fun item hmem => ?_⟩
  · rw [start, items_result_of_isOk fun item hmem => by rw [hverdict item hmem]; rfl]
    congr 1
    exact List.filter_congr fun item hmem => by rw [hverdict item hmem, Verdict.isYes_ok]
  · rw [List.all_eq_true]
    simp only [Stage.after, hconditions, List.nil_append]
    -- the conditions are those of the calls, each at its place in the chain
    constructor
    · intro h before operation terms after hsplit
      exact Condition.holdsOn_eq_true_iff.mp
        (h _ (Call.mem_conditions_iff.mpr ⟨before, operation, terms, after, hsplit, rfl⟩))
    · intro h condition hcondition
      obtain ⟨before, operation, terms, after, hsplit, rfl⟩ :=
        Call.mem_conditions_iff.mp hcondition
      exact Condition.holdsOn_eq_true_iff.mpr (h before operation terms after hsplit)

/-- A chain that looks at the case of letters only in its last condition. -/
theorem Search.items_of_chain_regarding_case_later :
    ∃ (s : Search) (keeps : Value → Bool),
      ((start ⟨[.named "name"], ⟨.ordinal, true⟩, .anywhere, []⟩).callAll
        [.filter .containing [.text "NN"], .setComparison (.text "ordinal"),
          .filter .startingWith [.text "A"]]).result = .ok s ∧
      (s.items (.ok [.map [("name", .text "Anna")], .map [("name", .null)]])).result =
        .ok ([.map [("name", .text "Anna")], .map [("name", .null)]].filter keeps) := by
  have hstage : Stage.ofSelectors [.named "name"] (.text (Comparison.label ⟨.ordinal, true⟩))
      (.text Placement.anywhere.label) =
        .ok ⟨[.named "name"], ⟨.ordinal, true⟩, .anywhere, []⟩ :=
    Stage.ofSelectors_named (by decide +kernel) _ _
  have hcalls : ((start ⟨[.named "name"], ⟨.ordinal, true⟩, .anywhere, []⟩).callAll
      [.filter .containing [.text "NN"], .setComparison (.text "ordinal"),
        .filter .startingWith [.text "A"]]).result = .ok _ :=
    callAll_result_eq_ok_iff.mpr ⟨by decide +kernel, rfl⟩
  have hread : ∀ item ∈ [Value.map [("name", .text "Anna")], .map [("name", .null)]],
      (⟨[.named "name"], ⟨.ordinal, true⟩, .anywhere, []⟩ : Stage).Readable item := by
    intro item hitem accessor haccessor
    obtain rfl := List.mem_singleton.mp haccessor
    simp only [List.mem_cons, List.not_mem_nil, or_false] at hitem
    rcases hitem with rfl | rfl
    · exact ⟨some "Anna", rfl⟩
    · exact ⟨none, rfl⟩
  obtain ⟨keeps, hkeeps, -⟩ := items_of_chain hstage hcalls hread
  exact ⟨_, keeps, hcalls, hkeeps⟩

end TermSearch
