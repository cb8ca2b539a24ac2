import Mathlib.Data.List.Perm.Basic
import Mathlib.Data.List.Perm.Subperm
import TermSearch.Proofs.Search.Beginning
import TermSearch.Proofs.Search.Filtering

/-!
# Rearranged Searches

Searches that are made of the same properties and conditions in another order, or with some of them
repeated. Where every property can be read, an item is accepted by what its texts are and by what
the conditions ask of them, and neither depends on the order nor on how often something is said. So
both searches can be made where one can, and they yield the same items.

A call that adds a condition is taken together with the settings in force when it is made. Calls are
put in another order with their settings, by calls that choose the settings anew where needed.

## Main definitions

- `Repeats`: a list repeats the entries of another one.
- `FilterCall`: a call that adds a condition, with its settings.
- `FilterCall.Permuted`, `FilterCall.Repeated`: the same calls in another order, or repeated.
- `Stage.RepeatedIn`: the same properties and conditions in another order, or repeated.

## Main statements

- `Stage.ofSelectors_of_repeats`: properties can be searched over if the same ones can be.
- `Call.fault?_eq_none_of_repeated`: repeated calls succeed if the calls do.
- `Stage.RepeatedIn.verdict_eq`: an item is accepted by both searches or by none.
- `Stage.RepeatedIn.items_result`: both searches yield the same items.
-/

namespace TermSearch

open Text (Placement)

/-! ## Repetitions -/

/-- The second list has every entry of the first one, at least as often and in any order, and has no
others. -/
structure Repeats {α : Type} (l more : List α) : Prop where
  subperm : l.Subperm more
  subset : more ⊆ l

namespace Repeats

variable {α β : Type} {l more : List α}

/-- A list in another order repeats each entry once. -/
theorem of_perm (h : l.Perm more) : Repeats l more :=
  ⟨h.subperm, h.symm.subset⟩

theorem mem_iff (h : Repeats l more) {a : α} : a ∈ more ↔ a ∈ l :=
  ⟨fun hmem => h.subset hmem, fun hmem => h.subperm.subset hmem⟩

theorem filterMap (h : Repeats l more) (f : α → Option β) :
    Repeats (l.filterMap f) (more.filterMap f) := by
  -- what is taken of a part of `more` is a part of what is taken of `more`
  obtain ⟨l', hperm, hsub⟩ := h.subperm
  refine ⟨⟨l'.filterMap f, hperm.filterMap f, hsub.filterMap f⟩, fun b hb => ?_⟩
  rw [List.mem_filterMap] at hb ⊢
  obtain ⟨a, ha, hab⟩ := hb
  exact ⟨a, h.subset ha, hab⟩

theorem filter (h : Repeats l more) (p : α → Bool) : Repeats (l.filter p) (more.filter p) := by
  simpa only [List.filterMap_eq_filter] using h.filterMap (Option.guard p)

end Repeats

/-! ## Properties -/

namespace Stage

/-- Properties can be searched over, with any settings, if the same ones can be in another order or
fewer times. -/
theorem ofSelectors_of_repeats {selectors more : List Selector}
    {comparison placement comparison' placement' : Value} {stage : Stage} {c : Comparison}
    {p : Placement} (h : ofSelectors selectors comparison placement = .ok stage)
    (hmore : Repeats selectors more) (hcomparison : Comparison.ofValue comparison' = .ok c)
    (hplacement : Placement.ofValue placement' = .ok p) :
    ofSelectors more comparison' placement' =
      .ok ⟨more.filterMap Selector.accessor?, c, p, []⟩ := by
  obtain ⟨hcheck, -⟩ := ofSelectors_eq_ok_iff.mp h
  obtain ⟨hne, heach⟩ := checkSelectors_eq_ok_iff.mp hcheck
  have heach' : ∀ selector ∈ more, selector.check = .ok () := fun selector hmem =>
    heach selector (hmore.subset hmem)
  have hne' : more ≠ [] := by
    rintro rfl
    exact hne (List.subperm_nil.mp hmore.subperm)
  exact ofSelectors_eq_ok_iff.mpr ⟨checkSelectors_eq_ok_iff.mpr ⟨hne', heach'⟩,
    Selector.mapM_resolve_of_check heach', hcomparison, hplacement, rfl⟩

end Stage

/-! ## Calls with their settings -/

/-- A call that adds a condition, with the settings in force when it is made. -/
structure FilterCall where
  operation : Operation
  terms : List Value
  comparison : Comparison
  placement : Placement

/-- The condition that a call adds. -/
def FilterCall.condition (call : FilterCall) : Condition :=
  ⟨call.operation, Terms.usable call.operation.keepsBlank call.terms, call.comparison,
    call.placement⟩

/-- The call apart from its settings. -/
def FilterCall.call (call : FilterCall) : Call :=
  .filter call.operation call.terms

namespace Call

/-- Whether a call adds a condition. -/
def isFilter : Call → Bool
  | .filter _ _ => true
  | _ => false

/-- The call together with the given settings, if it adds a condition. -/
def filterCall? (comparison : Comparison) (placement : Placement) : Call → Option FilterCall
  | .filter operation terms => some ⟨operation, terms, comparison, placement⟩
  | _ => none

/-- The calls in a row that add conditions, each one with the settings in force behind the calls
before it. -/
def filterCalls (comparison : Comparison) (placement : Placement) (calls : List Call) :
    List FilterCall :=
  (calls.inits.zip calls).filterMap fun (before, call) =>
    call.filterCall? (comparisonAfter comparison before) (placementAfter placement before)

/-- The conditions that calls add are those of the calls with their settings. -/
theorem map_condition_filterCalls (comparison : Comparison) (placement : Placement)
    (calls : List Call) :
    (filterCalls comparison placement calls).map FilterCall.condition =
      conditions comparison placement calls := by
  have hcall : ∀ (c : Comparison) (p : Placement) (call : Call),
      (call.filterCall? c p).map FilterCall.condition = call.condition? c p := by
    intro c p call
    cases call <;> rfl
  rw [filterCalls, conditions, List.map_filterMap]
  simp only [hcall]

/-- The calls with their settings are those that add conditions. -/
theorem map_call_filterCalls (comparison : Comparison) (placement : Placement)
    (calls : List Call) :
    (filterCalls comparison placement calls).map FilterCall.call = calls.filter isFilter := by
  have hcall : ∀ (c : Comparison) (p : Placement) (call : Call),
      (call.filterCall? c p).map FilterCall.call = Option.guard isFilter call := by
    intro c p call
    cases call <;> rfl
  have hcalls : (calls.inits.zip calls).map Prod.snd = calls :=
    List.map_snd_zip (by simp)
  rw [filterCalls, List.map_filterMap]
  simp only [hcall]
  rw [← congrArg (List.filter isFilter) hcalls, ← List.filterMap_eq_filter, List.filterMap_map]
  rfl

end Call

/-! ## Rearranged calls -/

namespace FilterCall

/-- Two calls that differ in nothing but their terms, and these are related. -/
structure SameBut (R : List Value → List Value → Prop) (call other : FilterCall) : Prop where
  operation : other.operation = call.operation
  comparison : other.comparison = call.comparison
  placement : other.placement = call.placement
  terms : R call.terms other.terms

/-- The same calls in another order, and the terms of each call in another order. -/
def Permuted (calls others : List FilterCall) : Prop :=
  ∃ moved, calls.Perm moved ∧ List.Forall₂ (SameBut List.Perm) moved others

/-- The same calls in another order and some of them repeated, and so the terms of each call. -/
def Repeated (calls others : List FilterCall) : Prop :=
  ∃ moved, Repeats calls moved ∧ List.Forall₂ (SameBut Repeats) moved others

variable {calls others : List FilterCall} {call other : FilterCall}

/-- Calls in another order are a way to repeat them. -/
theorem Permuted.repeated (h : Permuted calls others) : Repeated calls others := by
  obtain ⟨moved, hperm, hterms⟩ := h
  refine ⟨moved, Repeats.of_perm hperm, hterms.imp fun call other hsame => ?_⟩
  exact ⟨hsame.operation, hsame.comparison, hsame.placement, Repeats.of_perm hsame.terms⟩

/-- Calls in another order can be put back. -/
theorem Permuted.symm (h : Permuted calls others) : Permuted others calls := by
  obtain ⟨moved, hperm, hterms⟩ := h
  -- the terms are put in order first, and then the calls
  obtain ⟨moved', hterms', hperm'⟩ := List.perm_comp_forall₂ hperm hterms
  refine ⟨moved', hperm'.symm, (hterms'.imp fun call other hsame => ?_).flip⟩
  exact ⟨hsame.operation.symm, hsame.comparison.symm, hsame.placement.symm, hsame.terms.symm⟩

/-- Of two lists that are related entry by entry, each entry of the first one has a counterpart. -/
private theorem exists_mem_of_forall₂ {α β : Type} {R : α → β → Prop} {l : List α} {l' : List β}
    (h : List.Forall₂ R l l') {a : α} (ha : a ∈ l) : ∃ b ∈ l', R a b := by
  induction h with
  | nil => simp at ha
  | @cons a' b' rest rest' hab hrest ih =>
    rcases List.mem_cons.mp ha with rfl | hmem
    · exact ⟨b', List.mem_cons_self, hab⟩
    · obtain ⟨b, hb, hrel⟩ := ih hmem
      exact ⟨b, List.mem_cons_of_mem b' hb, hrel⟩

/-- Every call is repeated. -/
theorem Repeated.exists_other (h : Repeated calls others) (hcall : call ∈ calls) :
    ∃ other ∈ others, SameBut Repeats call other := by
  obtain ⟨moved, hrepeats, hterms⟩ := h
  exact exists_mem_of_forall₂ hterms (hrepeats.mem_iff.mpr hcall)

/-- Nothing but the calls is repeated. -/
theorem Repeated.exists_call (h : Repeated calls others) (hother : other ∈ others) :
    ∃ call ∈ calls, SameBut Repeats call other := by
  obtain ⟨moved, hrepeats, hterms⟩ := h
  obtain ⟨call, hcall, hsame⟩ := exists_mem_of_forall₂ hterms.flip hother
  exact ⟨call, hrepeats.subset hcall, hsame⟩

end FilterCall

/-! ## Success -/

/-- A call succeeds where all its terms are texts and a usable one is among them. -/
theorem Call.fault?_filter_eq_none_iff {operation : Operation} {terms : List Value} :
    (filter operation terms).fault? = none ↔
      (∀ v ∈ terms, ∃ text, v = .text text) ∧ Terms.usable operation.keepsBlank terms ≠ [] := by
  rw [fault?, faultOf_eq_none_iff, ← Terms.exists_eq_map_text_iff]
  constructor
  · rintro ⟨kept, hkept⟩
    obtain ⟨htext, rfl, hne⟩ := Terms.select_eq_ok_iff.mp hkept
    exact ⟨htext, hne⟩
  · rintro ⟨htext, hne⟩
    exact ⟨_, Terms.select_eq_ok_iff.mpr ⟨htext, rfl, hne⟩⟩

/-- Repeated values give the same terms, repeated. -/
theorem Terms.usable_of_repeats {keepsBlank : Bool} {terms more : List Value}
    (h : Repeats terms more) : Repeats (usable keepsBlank terms) (usable keepsBlank more) :=
  (h.filterMap _).filter _

namespace FilterCall

variable {calls others : List FilterCall} {call other : FilterCall}

/-- A call succeeds if the same one does with its terms in another order or fewer times. -/
theorem SameBut.fault?_eq_none (h : SameBut Repeats call other)
    (hcall : call.call.fault? = none) : other.call.fault? = none := by
  obtain ⟨htexts, hne⟩ := Call.fault?_filter_eq_none_iff.mp hcall
  rw [FilterCall.call, h.operation]
  refine Call.fault?_filter_eq_none_iff.mpr ⟨fun v hv => htexts v (h.terms.subset hv), ?_⟩
  intro hnil
  have husable := (@Terms.usable_of_repeats call.operation.keepsBlank _ _ h.terms).subperm
  rw [hnil] at husable
  exact hne (List.subperm_nil.mp husable)

end FilterCall

/-- Calls succeed that repeat the conditions of calls that do, if the settings that they choose are
known. -/
theorem Call.fault?_eq_none_of_repeated {calls others : List Call} {c c' : Comparison}
    {p p' : Placement} (hcalls : ∀ call ∈ calls, call.fault? = none)
    (hsettings : ∀ call ∈ others, call.isFilter = false → call.fault? = none)
    (h : FilterCall.Repeated (filterCalls c p calls) (filterCalls c' p' others)) :
    ∀ call ∈ others, call.fault? = none := by
  intro call hcall
  cases hfilter : call.isFilter with
  | false => exact hsettings call hcall hfilter
  | true =>
    have hmem : call ∈ (filterCalls c' p' others).map FilterCall.call := by
      rw [map_call_filterCalls]
      exact List.mem_filter.mpr ⟨hcall, hfilter⟩
    -- it repeats one of the calls, which succeeds
    obtain ⟨other, hother, rfl⟩ := List.mem_map.mp hmem
    obtain ⟨first, hfirst, hsame⟩ := h.exists_call hother
    have hmem' : first.call ∈ calls.filter isFilter := by
      rw [← map_call_filterCalls c p]
      exact List.mem_map_of_mem hfirst
    exact hsame.fault?_eq_none (hcalls _ (List.mem_filter.mp hmem').1)

/-! ## Filtering -/

/-- What an operation asks depends on which terms and texts there are, not on their order. -/
theorem Operation.asks_congr {operation : Operation} {comparison : Comparison}
    {placement : Placement} {terms terms' : List Value} {texts texts' : List String}
    (hterms : ∀ v, v ∈ terms' ↔ v ∈ terms) (htexts : ∀ text, text ∈ texts' ↔ text ∈ texts) :
    operation.Asks comparison placement terms' texts' ↔
      operation.Asks comparison placement terms texts := by
  cases operation <;> simp only [Asks, hterms, htexts]

namespace FilterCall

variable {calls others : List FilterCall} {call other : FilterCall} {texts more : List String}

/-- Repeating terms and texts leaves whether the condition of a call holds. -/
theorem SameBut.holdsOn_iff (h : SameBut Repeats call other) (htexts : Repeats texts more) :
    other.condition.holdsOn more = true ↔ call.condition.holdsOn texts = true := by
  rw [condition, condition, h.operation, h.comparison, h.placement,
    Condition.holdsOn_eq_true_iff, Condition.holdsOn_eq_true_iff]
  exact Operation.asks_congr (fun _ => h.terms.mem_iff) fun _ => htexts.mem_iff

/-- Repeating calls leaves whether all their conditions hold. -/
theorem Repeated.all_holdsOn (h : Repeated calls others) (htexts : Repeats texts more) :
    ((others.map condition).all fun condition => condition.holdsOn more) =
      (calls.map condition).all fun condition => condition.holdsOn texts := by
  rw [Bool.eq_iff_iff, List.all_map, List.all_map, List.all_eq_true, List.all_eq_true]
  constructor
  · intro hholds call hcall
    obtain ⟨other, hother, hsame⟩ := h.exists_other hcall
    exact (hsame.holdsOn_iff htexts).mp (hholds other hother)
  · intro hholds other hother
    obtain ⟨call, hcall, hsame⟩ := h.exists_call hother
    exact (hsame.holdsOn_iff htexts).mpr (hholds call hcall)

end FilterCall

namespace Stage

/-- The second stage has the properties and the conditions of the first one, in any order and some
of them repeated. -/
structure RepeatedIn (stage more : Stage) : Prop where
  accessors : Repeats stage.accessors more.accessors
  conditions : ∃ calls others, stage.conditions = calls.map FilterCall.condition ∧
    more.conditions = others.map FilterCall.condition ∧ FilterCall.Repeated calls others

/-- Stages behind calls are rearranged as the chosen properties and the calls are. -/
theorem repeatedIn_after {selectors others : List Selector}
    {comparison placement comparison' placement' : Value} {stage more : Stage}
    {calls rearranged : List Call}
    (hstage : ofSelectors selectors comparison placement = .ok stage)
    (hmore : ofSelectors others comparison' placement' = .ok more)
    (hselectors : Repeats selectors others)
    (hcalls : FilterCall.Repeated (Call.filterCalls stage.comparison stage.placement calls)
      (Call.filterCalls more.comparison more.placement rearranged)) :
    (stage.after calls).RepeatedIn (more.after rearranged) where
  accessors := by
    show Repeats stage.accessors more.accessors
    rw [accessors_of_ofSelectors hstage, accessors_of_ofSelectors hmore]
    exact hselectors.filterMap _
  conditions := by
    obtain ⟨-, -, -, -, hnone⟩ := ofSelectors_eq_ok_iff.mp hstage
    obtain ⟨-, -, -, -, hnone'⟩ := ofSelectors_eq_ok_iff.mp hmore
    refine ⟨_, _, ?_, ?_, hcalls⟩
    · rw [Call.map_condition_filterCalls, after, hnone, List.nil_append]
    · rw [Call.map_condition_filterCalls, after, hnone', List.nil_append]

namespace RepeatedIn

variable {stage more : Stage} {item : Value} {items : List Value}

theorem readable (h : stage.RepeatedIn more) (hread : stage.Readable item) : more.Readable item :=
  fun accessor haccessor => hread accessor (h.accessors.subset haccessor)

theorem texts (h : stage.RepeatedIn more) (item : Value) :
    Repeats (stage.texts item) (more.texts item) :=
  h.accessors.filterMap _

/-- Where every property can be read, an item is accepted by both stages or by none. -/
theorem verdict_eq (h : stage.RepeatedIn more) (hread : stage.Readable item) :
    ∃ holds, stage.verdict item = .ok holds ∧ more.verdict item = .ok holds := by
  obtain ⟨calls, others, hcalls, hothers, hrepeated⟩ := h.conditions
  rw [verdict_of_readable hread, verdict_of_readable (h.readable hread), hcalls, hothers,
    hrepeated.all_holdsOn (h.texts item)]
  exact ⟨_, rfl, rfl⟩

/-- Where every property can be read, searches through both stages yield the same items. -/
theorem items_result (h : stage.RepeatedIn more) (hread : ∀ item ∈ items, stage.Readable item) :
    ∃ yielded, ((⟨stage, []⟩ : Search).items (.ok items)).result = .ok yielded ∧
      ((⟨more, []⟩ : Search).items (.ok items)).result = .ok yielded := by
  have haccepts : ∀ item ∈ items, ∃ holds,
      ((⟨stage, []⟩ : Search).accepts item).result = .ok holds ∧
        ((⟨more, []⟩ : Search).accepts item).result = .ok holds := by
    intro item hmem
    simp only [Search.accepts_of_below_nil, accepts_result]
    exact h.verdict_eq (hread item hmem)
  -- so neither iteration fails, and both keep the items with the verdict yes
  refine ⟨_, Search.items_result_of_isOk fun item hmem => ?_, ?_⟩
  · obtain ⟨holds, hstage, -⟩ := haccepts item hmem
    rw [hstage]
    rfl
  · refine Search.items_result_eq_ok_iff.mpr ⟨fun item hmem => ?_,
      List.filter_congr fun item hmem => ?_⟩
    · obtain ⟨holds, -, hmore⟩ := haccepts item hmem
      rw [hmore]
      rfl
    · obtain ⟨holds, hstage, hmore⟩ := haccepts item hmem
      rw [hstage, hmore]

end RepeatedIn

end Stage

end TermSearch
