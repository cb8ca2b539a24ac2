import Mathlib.Algebra.Order.BigOperators.Group.List
import Mathlib.Algebra.Order.Group.Nat
import TermSearch.Proofs.Comparison.NormalForm
import TermSearch.Proofs.Ranking.Hits

/-!
# Agreement of Filtering and Ranking

Filtering asks whether a term occurs, ranking counts how often it does. A term that is not blank
has a normal form that is not empty, and so the two agree on every text: the term occurs where
it is counted at all. A search therefore yields no item without the hits that its conditions on
containment owe.

## Main definitions

- `Call.owed`: the hits that a call owes to the items that satisfy it.

## Main statements

- `Comparison.occurrences_pos_iff`: a term has occurrences in texts where it occurs in one.
- `Condition.owed_le_hits`: texts that satisfy a condition have the hits that it owes.
- `Search.yields_agrees_with_hits`: what a search yields, and the hits of it.
-/

namespace TermSearch

open Text (Placement)

/-! ## Terms -/

/-- A text that is not blank is not empty. -/
theorem Text.toList_ne_nil {s : String} (h : isBlank s = false) : s.toList ≠ [] := by
  intro hnil
  rw [isBlank, hnil] at h
  simp at h

/-- A term that is not blank has occurrences in texts where it occurs in one of them. -/
theorem Comparison.occurrences_pos_iff {comparison : Comparison} {placement : Placement}
    {texts : List String} {term : String} (h : Text.isBlank term = false) :
    0 < comparison.occurrences placement texts term ↔
      ∃ text ∈ texts, Text.Occurs placement (comparison.normalForm term.toList)
        (comparison.normalForm text.toList) := by
  have hterm : comparison.normalForm term.toList ≠ [] := fun hnil =>
    Text.toList_ne_nil h (comparison.normalForm_eq_nil_iff.mp hnil)
  rw [occurrences, List.sum_pos_iff_exists_pos_nat]
  simp only [List.mem_map, exists_exists_and_eq_and, Text.count_pos_iff hterm,
    Text.occurs_eq_true_iff]

/-! ## Conditions -/

namespace Condition

/-- The hits that a condition owes to the texts that satisfy it. -/
def owed (condition : Condition) : Nat :=
  match condition.operation with
  | .containing => 1
  | .containingAll => condition.terms.length
  | _ => 0

variable {comparison : Comparison} {placement : Placement} {terms : List Value}
  {texts : List String}

/-- A condition that some term is contained has hits where it holds. -/
theorem hits_containing_pos_iff :
    0 < (⟨.containing, Terms.usable false terms, comparison, placement⟩ : Condition).hits texts ↔
      Operation.containing.Asks comparison placement terms texts := by
  have hhits : (⟨.containing, Terms.usable false terms, comparison, placement⟩ :
      Condition).hits texts =
        ((Terms.usable false terms).map (comparison.occurrences placement texts)).sum := rfl
  rw [hhits, List.sum_pos_iff_exists_pos_nat]
  simp only [List.mem_map, exists_exists_and_eq_and, Terms.mem_usable_iff]
  constructor
  · rintro ⟨term, ⟨hterm, hkept | hblank⟩, hpos⟩
    · exact absurd hkept (by decide)
    · exact ⟨term, hterm, hblank, (Comparison.occurrences_pos_iff hblank).mp hpos⟩
  · rintro ⟨term, hterm, hblank, hoccurs⟩
    exact ⟨term, ⟨hterm, .inr hblank⟩, (Comparison.occurrences_pos_iff hblank).mpr hoccurs⟩

/-- A condition that all terms are contained has a hit for each of them where it holds. -/
theorem length_le_hits_containingAll
    (h : Operation.containingAll.Asks comparison placement terms texts) :
    (Terms.usable false terms).length ≤
      (⟨.containingAll, Terms.usable false terms, comparison, placement⟩ :
        Condition).hits texts := by
  -- each term has an occurrence of its own to contribute
  have hone : ∀ n ∈ (Terms.usable false terms).map (comparison.occurrences placement texts),
      1 ≤ n := by
    intro n hn
    obtain ⟨term, hmem, rfl⟩ := List.mem_map.mp hn
    rcases Terms.mem_usable_iff.mp hmem with ⟨hterm, hkept | hblank⟩
    · exact absurd hkept (by decide)
    · exact (Comparison.occurrences_pos_iff hblank).mpr (h term hterm hblank)
  simpa [hits, isCounted] using List.length_le_sum_of_one_le _ hone

/-- Texts that satisfy a condition have the hits that it owes. -/
theorem owed_le_hits {operation : Operation}
    (h : (⟨operation, Terms.usable operation.keepsBlank terms, comparison, placement⟩ :
      Condition).holdsOn texts = true) :
    (⟨operation, Terms.usable operation.keepsBlank terms, comparison, placement⟩ :
        Condition).owed ≤
      (⟨operation, Terms.usable operation.keepsBlank terms, comparison, placement⟩ :
        Condition).hits texts := by
  have hasks := holdsOn_eq_true_iff.mp h
  cases operation with
  | containing => exact hits_containing_pos_iff.mpr hasks
  | containingAll => exact length_le_hits_containingAll hasks
  | _ => exact Nat.zero_le _

end Condition

/-! ## Calls -/

namespace Call

/-- The hits that a call owes to the items that satisfy it: one for a call that some term is
contained, and one for each term that is not blank for a call that all of them are. -/
def owed : Call → Nat
  | .filter .containing _ => 1
  | .filter .containingAll terms => (Terms.usable false terms).length
  | _ => 0

/-- Calls owe what the conditions do that they add. -/
theorem sum_owed_conditions (comparison : Comparison) (placement : Placement)
    (calls : List Call) :
    ((conditions comparison placement calls).map Condition.owed).sum = (calls.map owed).sum := by
  have hcall : ∀ (c : Comparison) (p : Placement) (call : Call),
      (call.condition? c p).elim 0 Condition.owed = call.owed := by
    intro c p call
    cases call with
    | filter operation terms => cases operation <;> rfl
    | _ => rfl
  have hcalls : (calls.inits.zip calls).map Prod.snd = calls :=
    List.map_snd_zip (by simp)
  rw [sum_conditions]
  simp only [hcall]
  rw [← congrArg (List.map owed) hcalls, List.map_map]
  rfl

end Call

/-! ## Chains -/

/-- On an item whose properties can all be read, filtering and ranking agree. If the search
yields the item, its hits are no fewer than the calls owe together. If the only condition is that
some term is contained, an item that the source gives and the search comes to is yielded where it
has hits. -/
theorem Search.yields_agrees_with_hits {selectors : List Selector} {comparison placement : Value}
    {stage : Stage} {below : List Stage} {calls : List Call} {s : Search} {item : Value}
    (hstage : Stage.ofSelectors selectors comparison placement = .ok stage)
    (hcalls : ((⟨stage, below⟩ : Search).callAll calls).result = .ok s)
    (hread : stage.Readable item) :
    ∃ hits, (s.countHits item).result = .ok hits ∧
      (∀ items, s.Yields items item → (calls.map Call.owed).sum ≤ hits) ∧
      ∀ before terms after, calls = before ++ .filter .containing terms :: after →
        (∀ operation others, .filter operation others ∉ before ++ after) →
        ∀ items, (⟨stage, below⟩ : Search).Yields items item → s.Reaches items item →
          (s.Yields items item ↔ 0 < hits) := by
  obtain ⟨-, -, -, -, hconditions⟩ := Stage.ofSelectors_eq_ok_iff.mp hstage
  obtain ⟨-, rfl⟩ := callAll_result_eq_ok_iff.mp hcalls
  have hreadable : (stage.after calls).Readable item := hread
  have hown : (stage.after calls).conditions =
      Call.conditions stage.comparison stage.placement calls := by
    rw [Stage.after, hconditions, List.nil_append]
  have hverdict : (stage.after calls).verdict item = .ok
      ((Call.conditions stage.comparison stage.placement calls).all fun condition =>
        condition.holdsOn (stage.texts item)) := by
    rw [Stage.verdict_of_readable hreadable, hown, Stage.texts_after]
  have hhits : (countHits ⟨stage.after calls, below⟩ item).result = .ok
      ((Call.conditions stage.comparison stage.placement calls).map fun condition =>
        condition.hits (stage.texts item)).sum := by
    rw [← hown]
    exact countHitsOver_of_readable hreadable
  have haccepts : ((⟨stage.after calls, below⟩ : Search).accepts item).result = .ok true ↔
      (stage.after calls).verdict item = .ok true ∧
        ∀ other ∈ below, other.verdict item = .ok true :=
    accepts_result_eq_ok_true_iff.trans List.forall_mem_cons
  refine ⟨_, hhits, fun items hyields => ?_, fun before terms after hsplit hsole items hsource
    hreaches => ?_⟩
  · -- every condition holds on the texts, so each of them has the hits that it owes
    have hholds := (haccepts.mp hyields.2).1
    rw [hverdict, Except.ok.injEq, List.all_eq_true] at hholds
    rw [← Call.sum_owed_conditions stage.comparison stage.placement]
    apply List.sum_le_sum
    intro condition hmem
    have hcondition := hholds condition hmem
    obtain ⟨before, operation, terms, after, -, rfl⟩ := Call.mem_conditions_iff.mp hmem
    exact Condition.owed_le_hits hcondition
  · -- the stages below accept what the source gives, so the one condition decides
    have hbelow := (List.forall_mem_cons.mp (accepts_result_eq_ok_true_iff.mp hsource.2)).2
    have hone : Call.conditions stage.comparison stage.placement calls =
        [⟨.containing, Terms.usable false terms, Call.comparisonAfter stage.comparison before,
          Call.placementAfter stage.placement before⟩] := by
      rw [hsplit]
      exact Call.conditions_eq_singleton hsole
    rw [hone] at hverdict ⊢
    calc Yields ⟨stage.after calls, below⟩ items item
        ↔ (stage.after calls).verdict item = .ok true := by
          rw [Yields, haccepts]
          exact ⟨fun h => h.2.1, fun h => ⟨hreaches, h, hbelow⟩⟩
      _ ↔ Operation.containing.Asks (Call.comparisonAfter stage.comparison before)
            (Call.placementAfter stage.placement before) terms (stage.texts item) := by
          rw [hverdict, Except.ok.injEq, List.all_cons, List.all_nil, Bool.and_true]
          exact Condition.holdsOn_eq_true_iff
      _ ↔ _ := by
          rw [List.map_singleton, List.sum_singleton]
          exact Condition.hits_containing_pos_iff.symm

/-- One call on containment, in front of a setting. -/
theorem Search.yields_agrees_with_hits_of_one_call :
    ∃ (s : Search) (hits : Nat),
      ((start ⟨[.named "name"], ⟨.ordinal, false⟩, .wholeWords, []⟩).callAll
        [.filter .containing [.text "an"], .setPlacement (.text "any_occurrence")]).result =
          .ok s ∧
      (s.countHits (.map [("name", .text "an ant")])).result = .ok hits ∧
      ∀ items, s.Yields items (.map [("name", .text "an ant")]) → 1 ≤ hits := by
  have hstage : Stage.ofSelectors [.named "name"] (.text (Comparison.label ⟨.ordinal, false⟩))
      (.text Placement.wholeWords.label) =
        .ok ⟨[.named "name"], ⟨.ordinal, false⟩, .wholeWords, []⟩ :=
    Stage.ofSelectors_named (by decide +kernel) _ _
  have hcalls : ((start ⟨[.named "name"], ⟨.ordinal, false⟩, .wholeWords, []⟩).callAll
      [.filter .containing [.text "an"], .setPlacement (.text "any_occurrence")]).result = .ok _ :=
    callAll_result_eq_ok_iff.mpr ⟨by decide +kernel, rfl⟩
  have hread : (⟨[.named "name"], ⟨.ordinal, false⟩, .wholeWords, []⟩ : Stage).Readable
      (.map [("name", .text "an ant")]) := by
    intro accessor haccessor
    obtain rfl := List.mem_singleton.mp haccessor
    exact ⟨some "an ant", rfl⟩
  obtain ⟨hits, hhits, howed, -⟩ := yields_agrees_with_hits hstage hcalls hread
  exact ⟨_, hits, hcalls, hhits, howed⟩

end TermSearch
