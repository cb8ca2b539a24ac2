import TermSearch.Proofs.Search.Traversal
import TermSearch.Ranking

/-!
# Observing Searches

What can be observed of a search: how it tries items, yields them from a source at once or one after
the other, and ranks them. All of it comes from three things: the predicate of the search, what it
announces, and how it counts hits.

## Main definitions

- `Search.ObservedAlike`: two searches that nothing can tell apart.

## Main statements

- `Search.observedAlike_of_eq`: searches that agree in the three things are observed alike.
- `Search.countHits_congr`: searches over the same properties count alike if they do in every value.
-/

namespace TermSearch.Search

/-- Two searches come to the same results and make the same events known, in the same order,
wherever they are observed. -/
structure ObservedAlike (s t : Search) : Prop where
  /-- An item is tried. -/
  accepts : ∀ item, s.accepts item = t.accepts item
  /-- The items of a source are yielded. -/
  items : ∀ source, s.items source = t.items source
  /-- A source is opened for items to be taken one after the other. -/
  openSource : ∀ source, s.openSource source = t.openSource source
  /-- The next item is yielded. -/
  advance : ∀ rest, s.advance pure rest = t.advance pure rest
  /-- The hits of an item are counted. -/
  countHits : ∀ item, s.countHits item = t.countHits item
  /-- The items of a source are yielded with their hits. -/
  ranked : ∀ source, s.ranked source = t.ranked source
  /-- The next item is yielded with its hits. -/
  advanceRanked : ∀ rest, s.advance s.rank rest = t.advance t.rank rest
  /-- The items of a source are put in order by their hits. -/
  rankedByHits : ∀ source, s.rankedByHits source = t.rankedByHits source

variable {s t : Search}

/-- Searches that try items alike, announce alike and count hits alike are observed alike. -/
theorem observedAlike_of_eq (haccepts : s.accepts = t.accepts)
    (hannouncements : s.announcements = t.announcements) (hhits : s.countHits = t.countHits) :
    ObservedAlike s t := by
  have hrank : s.rank = t.rank := by
    funext item
    rw [rank, rank, hhits]
  have hopen : ∀ source, s.openSource source = t.openSource source := by
    intro source
    rw [openSource, openSource, hannouncements]
  have htraverse : ∀ {β : Type} (visit : Value → Traced Event β) source,
      s.traverse visit source = t.traverse visit source := by
    intro β visit source
    rw [traverse, traverse, hopen, haccepts]
  have hranked : ∀ source, s.ranked source = t.ranked source := by
    intro source
    rw [ranked, ranked, hrank, htraverse]
  exact {
    accepts := fun item => congrFun haccepts item
    items := htraverse pure
    openSource := hopen
    advance := fun rest => by rw [advance, advance, haccepts]
    countHits := fun item => congrFun hhits item
    ranked := hranked
    advanceRanked := fun rest => by rw [advance, advance, haccepts, hrank]
    rankedByHits := fun source => by rw [rankedByHits, rankedByHits, hranked] }

/-- Searches over the same properties count the hits of items alike if they count those of every
value alike. -/
theorem countHits_congr (haccessors : s.own.accessors = t.own.accessors)
    (hhits : ∀ value, s.hitsIn value = t.hitsIn value) : s.countHits = t.countHits := by
  have hover : ∀ item accessors,
      s.countHitsOver item accessors = t.countHitsOver item accessors := by
    intro item accessors
    induction accessors with
    | nil => rfl
    | cons accessor rest ih => rw [countHitsOver, countHitsOver, ih, funext hhits]
  funext item
  rw [countHits, countHits, haccessors, hover]

end TermSearch.Search
