import TermSearch.Proofs.Ranking.Hits
import TermSearch.Proofs.Search.Reads

/-!
# Reads of Rankings

Filtering reads no more properties of an item than it takes to try it, but ranking reads all of
them to count the hits. A ranking does both item by item: it tries the item and, if the item is
accepted, reads all properties before it comes to the next one. So a ranking can fail where the
iteration of the search does not, and it can fail earlier and with another fault.

## Main definitions

- `Search.readsToRank`: the reads of one item.
- `Search.rankingReads`: the reads of all items of a source, in a row.

## Main statements

- `Search.makesReads_countHits`: all properties are read to count hits.
- `Search.ranking_fails_at_first_failing_read`: a ranking makes these reads up to the first that
  fails, and ends in its fault.
-/

namespace TermSearch

namespace Search

/-! ## One item -/

/-- All properties are read to count hits. -/
theorem makesReads_countHits (s : Search) (item : Value) :
    MakesReads (s.countHits item) (readsOf item s.own.accessors) := by
  rw [countHits]
  induction s.own.accessors with
  | nil => exact MakesReads.pure 0
  | cons accessor rest ih =>
    rw [countHitsOver]
    refine (MakesReads.read accessor item).bind fun value _ => ?_
    rw [bind_pure_comp]
    exact ih.map _

/-- Checking the number of hits reads nothing more. -/
theorem makesReads_rank (s : Search) (item : Value) :
    MakesReads (s.rank item) (readsOf item s.own.accessors) := by
  rw [rank, ← List.append_nil (readsOf item s.own.accessors)]
  refine (s.makesReads_countHits item).bind fun hits _ => ?_
  have hcheck : checkHits (.int hits) = .ok () := by simp [checkHits]
  rw [hcheck]
  exact MakesReads.of_isOk rfl rfl

/-- The reads of an item in a ranking: those by which the search tries it, and then those of all
properties if it is accepted. -/
def readsToRank (s : Search) (item : Value) : List PropertyRead :=
  readsOf item (s.reads item ++ if Verdict.isYes (s.verdict item) then s.own.accessors else [])

/-- The reads of items in a ranking, item after item. -/
def rankingReads (s : Search) (items : List Value) : List PropertyRead :=
  items.flatMap s.readsToRank

/-! ## All items -/

variable {s : Search} {items : List Value}

theorem makesReads_ranked (s : Search) (items : List Value) :
    MakesReads (s.ranked (.ok items)) (s.rankingReads items) := by
  have hturn : ∀ item, MakesReads (turn s.accepts s.rank item) (s.readsToRank item) := by
    intro item
    have h := (s.makesReads_accepts item).turn (s.makesReads_rank item)
    rw [accepts_result_eq_verdict] at h
    rw [readsToRank, readsOf, List.map_append, apply_ite (List.map _)]
    exact h
  exact (MakesReads.visitAll hturn items).traverse

/-- A ranking that is completed is put in order, and nothing is read for that. -/
theorem rankedByHits_eq (s : Search) (source : Except Fault (List Value)) :
    (s.rankedByHits source).result = (s.ranked source).result.map orderByHits ∧
      Trace.reads (s.rankedByHits source).trace = Trace.reads (s.ranked source).trace := by
  rw [rankedByHits]
  cases h : (s.ranked source).result with
  | error fault =>
    rw [Traced.bind_of_result_error h]
    exact ⟨rfl, rfl⟩
  | ok ranked =>
    rw [Traced.bind_of_result_ok h]
    exact ⟨rfl, by simp [Trace.reads, Event.read?]⟩

/-- The items of a completed ranking are those that the search yields. -/
theorem items_result_of_ranked {ranked : List RankedItem}
    (h : (s.ranked (.ok items)).result = .ok ranked) :
    (s.items (.ok items)).result = .ok (ranked.map RankedItem.item) := by
  have hitem : ∀ item entry, (s.rank item).result = .ok entry → entry.item = item := by
    intro item entry hrank
    rw [rank_result] at hrank
    cases hhits : (s.countHits item).result with
    | error fault => rw [hhits] at hrank; exact nomatch hrank
    | ok hits =>
      rw [hhits] at hrank
      obtain rfl : RankedItem.mk hits item = entry := Except.ok.inj hrank
      rfl
  rw [Search.ranked, traverse_ok] at h
  rw [Search.items, traverse_ok]
  exact visitAll_pure_result_of_ok hitem h

/-- No read of a ranking fails where none does by which the items are tried, and all properties of
the accepted items can be read. -/
theorem forall_rankingReads_iff :
    (∀ read ∈ s.rankingReads items, read.fault? = none) ↔
      (∀ read ∈ items.flatMap fun item => readsOf item (s.reads item), read.fault? = none) ∧
        ∀ item ∈ items, s.verdict item = .ok true → s.own.Readable item := by
  have hreadable : ∀ item, s.own.Readable item ↔
      ∀ accessor ∈ s.own.accessors, PropertyRead.fault? ⟨accessor, item⟩ = none := by
    intro item
    simp only [Stage.Readable, PropertyRead.fault?, Call.faultOf_eq_none_iff]
  have hitem : ∀ item, (∀ read ∈ s.readsToRank item, read.fault? = none) ↔
      (∀ read ∈ readsOf item (s.reads item), read.fault? = none) ∧
        (s.verdict item = .ok true → s.own.Readable item) := by
    intro item
    simp only [readsToRank, readsOf, List.forall_mem_map, List.forall_mem_append, hreadable]
    refine and_congr_right fun _ => ?_
    rw [← Verdict.isYes_eq_true_iff]
    cases Verdict.isYes (s.verdict item) <;> simp
  simp only [rankingReads, List.forall_mem_flatMap, hitem]
  exact ⟨fun h => ⟨fun item hmem => (h item hmem).1, fun item hmem => (h item hmem).2⟩,
    fun h item hmem => ⟨h.1 item hmem, h.2 item hmem⟩⟩

/-- A ranking makes its reads in order, up to the first that fails, and ends in the fault of that
one: item by item those reads by which the item is tried, and then all properties of the item if it
is accepted. So it is completed where the iteration of the search is and all properties of the
items that are yielded can be read, and then it has these items in their order. Putting the items
in order by their hits fails in the same way. -/
theorem ranking_fails_at_first_failing_read (s : Search) (items : List Value) :
    ((∃ ranked, (s.ranked (.ok items)).result = .ok ranked) ↔
      ∃ yielded, (s.items (.ok items)).result = .ok yielded ∧
        ∀ item ∈ yielded, s.own.Readable item) ∧
    (∀ ranked, (s.ranked (.ok items)).result = .ok ranked →
      (s.items (.ok items)).result = .ok (ranked.map RankedItem.item)) ∧
    (∀ fault, (s.ranked (.ok items)).result = .error fault ↔
      (s.rankingReads items).findSome? PropertyRead.fault? = some fault) ∧
    Trace.reads (s.ranked (.ok items)).trace =
      (upToFirst PropertyRead.fails (s.rankingReads items)).flatMap PropertyRead.asked ∧
    (∀ fault, (s.rankedByHits (.ok items)).result = .error fault ↔
      (s.ranked (.ok items)).result = .error fault) ∧
    Trace.reads (s.rankedByHits (.ok items)).trace = Trace.reads (s.ranked (.ok items)).trace := by
  have hranked := s.makesReads_ranked items
  have hitems := s.makesReads_items items
  obtain ⟨horder, hreads⟩ := s.rankedByHits_eq (.ok items)
  refine ⟨?_, fun ranked h => items_result_of_ranked h, fun fault => hranked.eq_error_iff,
    hranked.trace, fun fault => ?_, hreads⟩
  · rw [hranked.isOk_iff, forall_rankingReads_iff, ← hitems.isOk_iff]
    -- the items that are accepted are those that a completed iteration yields
    have hyielded : ∀ yielded, (s.items (.ok items)).result = .ok yielded →
        ((∀ item ∈ items, s.verdict item = .ok true → s.own.Readable item) ↔
          ∀ item ∈ yielded, s.own.Readable item) := by
      intro yielded h
      obtain ⟨-, rfl⟩ := items_result_eq_ok_iff.mp h
      simp only [List.mem_filter, Verdict.isYes_eq_true_iff, accepts_result_eq_verdict, and_imp]
    constructor
    · rintro ⟨⟨yielded, h⟩, hread⟩
      exact ⟨yielded, h, (hyielded yielded h).mp hread⟩
    · rintro ⟨yielded, h, hread⟩
      exact ⟨⟨yielded, h⟩, (hyielded yielded h).mpr hread⟩
  · rw [horder]
    cases (s.ranked (.ok items)).result <;> simp [Except.map]

/-- The city of the first item is not read to try it, but it is read before the name of the second
one is. -/
example :
    (ranked ⟨⟨[.named "name", .named "city"], ⟨.ordinal, false⟩, .anywhere,
        [⟨.containing, ["n"], ⟨.ordinal, false⟩, .anywhere⟩]⟩, []⟩
      (.ok [.map [("name", .text "Ann"), ("city", .int 1)], .map [("name", .int 2)]])).result =
        .error (.propertyNotText "city" "int") := rfl

end Search

end TermSearch
