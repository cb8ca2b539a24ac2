import TermSearch.Proofs.Ranking.Reads

/-!
# The Order of Rankings

Ranked items are put into the order of falling hits, and items with equal hits stay in the order in
which the search yields them. Nothing is lost and nothing is added by that, however often an item
comes up. No other list of the ranked items is in this order: the first item of such a list is the
first one of those with the most hits, and so on for the rest.

## Main definitions

- `Search.FallsStably`: a list has ranked items in falling order, with equal hits as they were.

## Main statements

- `Search.fallsStably_orderByHits`: ranked items are put into this order.
- `Search.FallsStably.eq`: there is one list only that is in this order.
- `Search.rankedByHits_falls_stably`: what a search ranks is put into it.
-/

namespace TermSearch.Search

/-- The ranked items, in the order of falling hits, and those with equal hits in their own order. -/
structure FallsStably (ranked ordered : List RankedItem) : Prop where
  perm : ordered.Perm ranked
  falling : ordered.Pairwise fun a b => b.hits ≤ a.hits
  stable : ∀ hits, ordered.filter (fun entry => entry.hits = hits) =
    ranked.filter fun entry => entry.hits = hits

/-! ## Sorting -/

theorem orderByHits_perm (ranked : List RankedItem) : (orderByHits ranked).Perm ranked :=
  List.mergeSort_perm ranked _

private theorem hitsAtLeast_trans (a b c : RankedItem) (hab : decide (b.hits ≤ a.hits) = true)
    (hbc : decide (c.hits ≤ b.hits) = true) : decide (c.hits ≤ a.hits) = true := by
  simp only [decide_eq_true_eq] at *
  omega

private theorem hitsAtLeast_total (a b : RankedItem) :
    (decide (b.hits ≤ a.hits) || decide (a.hits ≤ b.hits)) = true := by
  simp only [Bool.or_eq_true, decide_eq_true_eq]
  omega

/-- Entries with the same hits stand in the sorted list as they did before. -/
theorem filter_orderByHits (ranked : List RankedItem) (hits : Nat) :
    (orderByHits ranked).filter (fun entry => entry.hits = hits) =
      ranked.filter fun entry => entry.hits = hits := by
  -- they are in order among themselves, so sorting keeps them as a part of the list
  have hequal : (ranked.filter fun entry => entry.hits = hits).Pairwise
      fun a b => decide (b.hits ≤ a.hits) = true := by
    refine List.pairwise_of_forall_mem_list fun a ha b hb => ?_
    simp only [List.mem_filter, decide_eq_true_eq] at ha hb ⊢
    omega
  have hsub : (ranked.filter fun entry => entry.hits = hits).Sublist (orderByHits ranked) :=
    List.sublist_mergeSort hitsAtLeast_trans hitsAtLeast_total hequal List.filter_sublist
  have hpart := hsub.filter fun entry => entry.hits = hits
  simp only [List.filter_filter, Bool.and_self] at hpart
  -- and there are no more of them in the sorted list
  have hlength := ((orderByHits_perm ranked).filter fun entry => entry.hits = hits).length_eq
  exact (hpart.eq_of_length hlength.symm).symm

/-- Ranked items are put into the order of falling hits, and those with equal hits stay in order. -/
theorem fallsStably_orderByHits (ranked : List RankedItem) :
    FallsStably ranked (orderByHits ranked) where
  perm := orderByHits_perm ranked
  falling := by
    have hsorted := List.pairwise_mergeSort hitsAtLeast_trans hitsAtLeast_total ranked
    exact hsorted.imp of_decide_eq_true
  stable := filter_orderByHits ranked

/-! ## Uniqueness -/

/-- Two lists with falling hits are the same if the entries of each number of hits are. -/
private theorem eq_of_falling {l m : List RankedItem}
    (hl : l.Pairwise fun a b => b.hits ≤ a.hits) (hm : m.Pairwise fun a b => b.hits ≤ a.hits)
    (h : ∀ hits, l.filter (fun entry => entry.hits = hits) =
      m.filter fun entry => entry.hits = hits) : l = m := by
  -- entry by entry: what is left behind equal first entries is alike again
  induction l generalizing m with
  | nil =>
    cases m with
    | nil => rfl
    | cons b m => simpa using h b.hits
  | cons a l ih =>
    cases m with
    | nil => simpa using h a.hits
    | cons b m =>
      obtain ⟨hfirst, hrest⟩ := List.pairwise_cons.mp hl
      obtain ⟨hfirst', hrest'⟩ := List.pairwise_cons.mp hm
      -- both begin with the most hits
      have hmem : a ∈ b :: m := by
        have hmem : a ∈ (b :: m).filter fun entry => entry.hits = a.hits := by simp [← h a.hits]
        exact (List.mem_filter.mp hmem).1
      have hmem' : b ∈ a :: l := by
        have hmem' : b ∈ (a :: l).filter fun entry => entry.hits = b.hits := by simp [h b.hits]
        exact (List.mem_filter.mp hmem').1
      have hle : a.hits ≤ b.hits := by
        rcases List.mem_cons.mp hmem with heq | hmem
        · rw [heq]
        · exact hfirst' a hmem
      have hle' : b.hits ≤ a.hits := by
        rcases List.mem_cons.mp hmem' with heq | hmem'
        · rw [heq]
        · exact hfirst b hmem'
      have hhits : b.hits = a.hits := Nat.le_antisymm hle' hle
      -- and with the first entry that has them
      have hsame := h a.hits
      simp only [List.filter_cons, hhits, decide_true, if_true, List.cons.injEq] at hsame
      obtain ⟨rfl, hsame⟩ := hsame
      congr 1
      refine ih hrest hrest' fun hits => ?_
      by_cases heq : a.hits = hits
      · rw [← heq]
        exact hsame
      · simpa [List.filter_cons, heq] using h hits

/-- Ranked items have one order only that falls stably. -/
theorem FallsStably.eq {ranked ordered other : List RankedItem} (h : FallsStably ranked ordered)
    (hother : FallsStably ranked other) : other = ordered :=
  eq_of_falling hother.falling h.falling fun hits => (hother.stable hits).trans (h.stable hits).symm

/-! ## Rankings -/

/-- Each entry of a ranking has the hits of its item. -/
theorem countHits_of_mem_ranked {s : Search} {items : List Value} {ranked : List RankedItem}
    (h : (s.ranked (.ok items)).result = .ok ranked) {entry : RankedItem}
    (hentry : entry ∈ ranked) :
    (s.countHits entry.item).result = .ok entry.hits := by
  rw [Search.ranked, traverse_ok] at h
  obtain ⟨item, -, hrank⟩ := exists_visit_of_mem h hentry
  rw [rank_result] at hrank
  cases hhits : (s.countHits item).result with
  | error fault =>
    rw [hhits] at hrank
    cases hrank
  | ok hits =>
    rw [hhits] at hrank
    obtain rfl : RankedItem.mk hits item = entry := Except.ok.inj hrank
    exact hhits

/-- Where a ranking succeeds, its items are put into the order of falling hits. The result has
all of them as often as they are ranked, its hits never rise, and it is the only such list in
which the items of each number of hits come in the order in which the search yields them. -/
theorem rankedByHits_falls_stably {s : Search} {source : Except Fault (List Value)}
    {ranked : List RankedItem} (h : (s.ranked source).result = .ok ranked) :
    ∃ ordered yielded, (s.rankedByHits source).result = .ok ordered ∧
      (s.items source).result = .ok yielded ∧ ranked.map RankedItem.item = yielded ∧
      FallsStably ranked ordered ∧
      (∀ hits, (ordered.filter fun entry => entry.hits = hits).map RankedItem.item =
        yielded.filter fun item => (s.countHits item).result.toOption = some hits) ∧
      ∀ other, FallsStably ranked other → other = ordered := by
  cases source with
  | error fault => cases h
  | ok items =>
    have hfalls := fallsStably_orderByHits ranked
    have hordered : (s.rankedByHits (.ok items)).result = .ok (orderByHits ranked) := by
      rw [(rankedByHits_eq s (.ok items)).1, h]
      rfl
    refine ⟨_, _, hordered, items_result_of_ranked h, rfl, hfalls, fun hits => ?_,
      fun other hother => hfalls.eq hother⟩
    rw [hfalls.stable, List.filter_map]
    refine congrArg _ (List.filter_congr fun entry hentry => ?_)
    simp [countHits_of_mem_ranked h hentry, Except.toOption]

/-- Two items with equal hits stay in order behind one that comes later and has more. -/
theorem rankedByHits_falls_stably_behind_more :
    ∃ ordered,
      (rankedByHits ⟨⟨[.named "name"], ⟨.ordinal, false⟩, .anywhere,
          [⟨.containing, ["n"], ⟨.ordinal, false⟩, .anywhere⟩]⟩, []⟩
        (.ok [.map [("name", .text "on")], .map [("name", .text "in")],
          .map [("name", .text "nun")]])).result = .ok ordered ∧
      FallsStably [⟨1, .map [("name", .text "on")]⟩, ⟨1, .map [("name", .text "in")]⟩,
        ⟨2, .map [("name", .text "nun")]⟩] ordered ∧
      (ordered.filter fun entry => entry.hits = 1).map RankedItem.item =
        [.map [("name", .text "on")], .map [("name", .text "in")]] := by
  have hranked : (ranked ⟨⟨[.named "name"], ⟨.ordinal, false⟩, .anywhere,
      [⟨.containing, ["n"], ⟨.ordinal, false⟩, .anywhere⟩]⟩, []⟩
      (.ok [.map [("name", .text "on")], .map [("name", .text "in")],
        .map [("name", .text "nun")]])).result =
      .ok [⟨1, .map [("name", .text "on")]⟩, ⟨1, .map [("name", .text "in")]⟩,
        ⟨2, .map [("name", .text "nun")]⟩] := by
    rfl
  obtain ⟨ordered, yielded, hordered, -, -, hfalls, -⟩ := rankedByHits_falls_stably hranked
  exact ⟨ordered, hordered, hfalls, by rw [hfalls.stable]; rfl⟩

end TermSearch.Search
