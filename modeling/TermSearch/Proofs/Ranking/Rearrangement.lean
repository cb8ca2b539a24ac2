import Mathlib.Algebra.Order.BigOperators.Group.List
import Mathlib.Algebra.Order.Group.Nat
import TermSearch.Proofs.Ranking.Reads
import TermSearch.Proofs.Search.Rearrangement

/-!
# Hits of Rearranged Searches

The hits of an item are a sum over properties, conditions and terms. So they do not depend on the
order of any of these, and whatever is repeated is counted again: repetitions never lower the hits.
If one search is a rearrangement of the other without repetitions, it is so the other way round as
well, and the hits are the same.

## Main statements

- `Stage.RepeatedIn.hitsOf_le`: repeating properties and conditions never lowers the hits of an
  item.
- `Search.rearranging_keeps_items_and_hits`: a chain of calls and a rearrangement of it.
-/

namespace TermSearch

open Text (Placement)

/-! ## Sums -/

/-- A sum over a list is no more than a sum over one that repeats its entries. -/
theorem Repeats.sum_map_le {α : Type} {l more : List α} (h : Repeats l more) (f : α → Nat) :
    (l.map f).sum ≤ (more.map f).sum := by
  obtain ⟨l', hperm, hsub⟩ := h.subperm
  calc (l.map f).sum = (l'.map f).sum := (hperm.symm.map f).sum_eq
    _ ≤ (more.map f).sum := (hsub.map f).sum_le_sum fun _ _ => Nat.zero_le _

/-! ## Hits -/

/-- Repeating terms and texts never lowers the hits of a call. -/
theorem FilterCall.SameBut.hits_le {call other : FilterCall} {texts more : List String}
    (h : SameBut Repeats call other) (htexts : Repeats texts more) :
    call.condition.hits texts ≤ other.condition.hits more := by
  have hterms : Repeats call.condition.terms other.condition.terms := by
    rw [condition, condition, h.operation]
    exact Terms.usable_of_repeats h.terms
  have hcounted : other.condition.isCounted = call.condition.isCounted := by
    rw [Condition.isCounted, Condition.isCounted, condition, condition, h.operation]
  have hoccurrences : ∀ term,
      call.condition.comparison.occurrences call.condition.placement texts term ≤
        other.condition.comparison.occurrences other.condition.placement more term := by
    intro term
    rw [condition, condition, h.comparison, h.placement]
    exact htexts.sum_map_le _
  rw [Condition.hits, Condition.hits, hcounted]
  split
  -- first more terms are counted, and then each of them in more texts
  · calc (call.condition.terms.map _).sum ≤ (other.condition.terms.map _).sum :=
          hterms.sum_map_le _
      _ ≤ (other.condition.terms.map _).sum := List.sum_le_sum fun term _ => hoccurrences term
  · exact Nat.le_refl 0

/-- Repeating calls, terms and texts never lowers the hits of all calls together. -/
theorem FilterCall.Repeated.sum_hits_le {calls others : List FilterCall} {texts more : List String}
    (h : Repeated calls others) (htexts : Repeats texts more) :
    ((calls.map condition).map fun condition => condition.hits texts).sum ≤
      ((others.map condition).map fun condition => condition.hits more).sum := by
  obtain ⟨moved, hrepeats, hterms⟩ := h
  have hmoved :
      List.Forall₂ (fun call other => call.condition.hits texts ≤ other.condition.hits more)
        moved others := hterms.imp fun call other hsame => hsame.hits_le htexts
  rw [List.map_map, List.map_map]
  -- first more calls are counted, and then each of them in more texts
  calc (calls.map _).sum ≤ (moved.map fun call => call.condition.hits texts).sum :=
        hrepeats.sum_map_le _
    _ ≤ (others.map fun other => other.condition.hits more).sum :=
        (List.forall₂_map_left_iff.mpr (List.forall₂_map_right_iff.mpr hmoved)).sum_le_sum

/-- Repeating properties and conditions never lowers the hits of an item. -/
theorem Stage.RepeatedIn.hitsOf_le {stage more : Stage} (h : stage.RepeatedIn more) (item : Value) :
    stage.hitsOf item ≤ more.hitsOf item := by
  obtain ⟨calls, others, hcalls, hothers, hrepeated⟩ := h.conditions
  rw [hitsOf, hitsOf, hcalls, hothers]
  exact hrepeated.sum_hits_le (h.texts item)

/-! ## Chains -/

/-- A chain of calls on a search over a list whose items have properties that can all be read, and a
rearrangement of it: the properties in any order and some of them repeated, the calls that add
conditions in any order and some of them repeated, each with the settings that it is made under, and
the terms of each call in any order and some of them repeated. The rearranged search is made as
well, it yields the same items, and no item has fewer hits. Where nothing is repeated, both rank
alike. -/
theorem Search.rearranging_keeps_items_and_hits {selectors others : List Selector}
    {comparison placement comparison' placement' : Value} {c : Comparison} {p : Placement}
    {stage : Stage} {calls rearranged : List Call} {s : Search} {items : List Value}
    (hstage : Stage.ofSelectors selectors comparison placement = .ok stage)
    (hcalls : ((start stage).callAll calls).result = .ok s)
    (hread : ∀ item ∈ items, stage.Readable item)
    (hcomparison : Comparison.ofValue comparison' = .ok c)
    (hplacement : Placement.ofValue placement' = .ok p)
    (hsettings : ∀ call ∈ rearranged, call.isFilter = false → call.fault? = none)
    (hselectors : Repeats selectors others)
    (hfilters : FilterCall.Repeated (Call.filterCalls stage.comparison stage.placement calls)
      (Call.filterCalls c p rearranged)) :
    ∃ begun t yielded ranked ranked',
      Stage.ofSelectors others comparison' placement' = .ok begun ∧
      ((start begun).callAll rearranged).result = .ok t ∧
      (s.items (.ok items)).result = .ok yielded ∧ (t.items (.ok items)).result = .ok yielded ∧
      (s.ranked (.ok items)).result = .ok ranked ∧ (t.ranked (.ok items)).result = .ok ranked' ∧
      List.Forall₂ (fun entry entry' => entry.item = entry'.item ∧ entry.hits ≤ entry'.hits)
        ranked ranked' ∧
      (∀ item ∈ items, ∃ m n, (s.countHits item).result = .ok m ∧
        (t.countHits item).result = .ok n ∧ m ≤ n) ∧
      (selectors.Perm others →
        FilterCall.Permuted (Call.filterCalls stage.comparison stage.placement calls)
          (Call.filterCalls c p rearranged) →
        ranked = ranked' ∧
          (s.rankedByHits (.ok items)).result = .ok (orderByHits ranked) ∧
          (t.rankedByHits (.ok items)).result = .ok (orderByHits ranked)) := by
  obtain ⟨hfaults, rfl⟩ := callAll_result_eq_ok_iff.mp hcalls
  obtain ⟨begun, hbegun, rfl, rfl⟩ : ∃ begun, Stage.ofSelectors others comparison' placement' =
      .ok begun ∧ begun.comparison = c ∧ begun.placement = p :=
    ⟨_, Stage.ofSelectors_of_repeats hstage hselectors hcomparison hplacement, rfl, rfl⟩
  have hrepeated := Stage.repeatedIn_after hstage hbegun hselectors hfilters
  have hread' := fun item hmem => hrepeated.readable (hread item hmem)
  obtain ⟨yielded, hitems, hitems'⟩ := hrepeated.items_result hread
  -- both rank the same items, each by the hits of its own stage
  have hranked := (@ranked_of_readable ⟨stage.after calls, []⟩ _ hread).trans
    (congrArg (Except.map _) hitems)
  have hranked' := (@ranked_of_readable ⟨begun.after rearranged, []⟩ _ hread').trans
    (congrArg (Except.map _) hitems')
  refine ⟨begun, _, yielded, _, _, hbegun, callAll_result_eq_ok_iff.mpr
    ⟨Call.fault?_eq_none_of_repeated hfaults hsettings hfilters, rfl⟩, hitems, hitems', hranked,
    hranked', ?_, fun item hmem => ?_, fun hperm hpermuted => ?_⟩
  · rw [List.forall₂_map_left_iff, List.forall₂_map_right_iff, List.forall₂_same]
    exact fun item _ => ⟨rfl, hrepeated.hitsOf_le item⟩
  · exact ⟨_, _, countHits_of_readable (hread item hmem), countHits_of_readable (hread' item hmem),
      hrepeated.hitsOf_le item⟩
  · -- without repetitions, the first search is a rearrangement of the second one
    have hback := Stage.repeatedIn_after hbegun hstage (Repeats.of_perm hperm.symm)
      hpermuted.symm.repeated
    have hsame : yielded.map (fun item => RankedItem.mk ((stage.after calls).hitsOf item) item) =
        yielded.map fun item => RankedItem.mk ((begun.after rearranged).hitsOf item) item := by
      refine List.map_congr_left fun item _ => ?_
      rw [Nat.le_antisymm (hrepeated.hitsOf_le item) (hback.hitsOf_le item)]
    refine ⟨hsame, ?_, ?_⟩
    · exact (rankedByHits_eq _ _).1.trans (congrArg (Except.map orderByHits) hranked)
    · rw [hsame]
      exact (rankedByHits_eq _ _).1.trans (congrArg (Except.map orderByHits) hranked')

/-- Two properties the other way round, and two calls the other way round that are made under
different comparisons. -/
theorem Search.rearranging_keeps_items_and_hits_of_two :
    ∃ s begun t ranked,
      ((start ⟨[.named "name", .named "city"], ⟨.ordinal, false⟩, .anywhere, []⟩).callAll
        [.filter .containing [.text "on", .text "n"], .setComparison (.text "ordinal_ignore_case"),
          .filter .startingWith [.text "l"]]).result = .ok s ∧
      Stage.ofSelectors [.named "city", .named "name"] (.text "ordinal_ignore_case")
        (.text "any_occurrence") = .ok begun ∧
      ((start begun).callAll [.filter .startingWith [.text "l"], .setComparison (.text "ordinal"),
        .filter .containing [.text "n", .text "on"]]).result = .ok t ∧
      (s.rankedByHits (.ok [.map [("name", .text "Ann"), ("city", .text "London")]])).result =
        .ok (orderByHits ranked) ∧
      (t.rankedByHits (.ok [.map [("name", .text "Ann"), ("city", .text "London")]])).result =
        .ok (orderByHits ranked) := by
  have hstage : Stage.ofSelectors [.named "name", .named "city"] (.text "ordinal")
      (.text "any_occurrence") =
        .ok ⟨[.named "name", .named "city"], ⟨.ordinal, false⟩, .anywhere, []⟩ := by rfl
  have hcalls : ((start ⟨[.named "name", .named "city"], ⟨.ordinal, false⟩, .anywhere,
      []⟩).callAll [.filter .containing [.text "on", .text "n"],
        .setComparison (.text "ordinal_ignore_case"), .filter .startingWith [.text "l"]]).result =
          .ok _ :=
    callAll_result_eq_ok_iff.mpr ⟨by decide +kernel, rfl⟩
  have hread : ∀ item ∈ [Value.map [("name", .text "Ann"), ("city", .text "London")]],
      (⟨[.named "name", .named "city"], ⟨.ordinal, false⟩, .anywhere, []⟩ : Stage).Readable
        item := by
    intro item hitem accessor haccessor
    obtain rfl := List.mem_singleton.mp hitem
    simp only [List.mem_cons, List.not_mem_nil, or_false] at haccessor
    rcases haccessor with rfl | rfl
    · exact ⟨some "Ann", rfl⟩
    · exact ⟨some "London", rfl⟩
  have hsettings : ∀ call ∈ [Call.filter .startingWith [.text "l"],
      .setComparison (.text "ordinal"), .filter .containing [.text "n", .text "on"]],
      call.isFilter = false → call.fault? = none := by
    decide +kernel
  have hperm : [Selector.named "name", .named "city"].Perm [.named "city", .named "name"] :=
    List.Perm.swap _ _ _
  have hpermuted : FilterCall.Permuted
      (Call.filterCalls ⟨.ordinal, false⟩ .anywhere [.filter .containing [.text "on", .text "n"],
        .setComparison (.text "ordinal_ignore_case"), .filter .startingWith [.text "l"]])
      (Call.filterCalls ⟨.ordinal, true⟩ .anywhere [.filter .startingWith [.text "l"],
        .setComparison (.text "ordinal"), .filter .containing [.text "n", .text "on"]]) :=
    ⟨_, List.Perm.swap _ _ _, .cons ⟨rfl, rfl, rfl, List.Perm.refl _⟩
      (.cons ⟨rfl, rfl, rfl, List.Perm.swap _ _ _⟩ .nil)⟩
  obtain ⟨begun, t, yielded, ranked, ranked', hbegun, ht, -, -, -, -, -, -, halike⟩ :=
    @rearranging_keeps_items_and_hits _ _ _ _ (.text "ordinal_ignore_case") (.text "any_occurrence")
      ⟨.ordinal, true⟩ .anywhere _ _ _ _ _ hstage hcalls hread rfl rfl hsettings
      (Repeats.of_perm hperm) hpermuted.repeated
  obtain ⟨-, hs, ht'⟩ := halike hperm hpermuted
  exact ⟨_, begun, t, ranked, hcalls, hbegun, ht, hs, ht'⟩

end TermSearch
