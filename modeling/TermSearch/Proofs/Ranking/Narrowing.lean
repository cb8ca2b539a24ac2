import Mathlib.Algebra.Order.BigOperators.Group.List
import Mathlib.Algebra.Order.Group.Nat
import TermSearch.Proofs.Comparison.Strength
import TermSearch.Proofs.Ranking.Order
import TermSearch.Proofs.Search.EachTerm

/-!
# Narrower and Wider Searches

A search with a stronger condition in the place of a weaker one, among the same other
conditions, yields some of the items, in the same order, and none of them with more hits.
Conditions that the value is a term are the strongest, those that it starts or ends with one
come next, and those that it contains one anywhere are the weakest. Conditions that it contains
one as whole words follow from equality only.

Neither search has to be free of faults for that. Where both go through a source, what the one
yields is a part of what the other does.

## Main definitions

- `Condition.Narrows`: a condition is stronger than another one on the same terms.
- `Search.Narrows`: a search yields a part of what another one does, with no more hits.

## Main statements

- `Search.narrows_of_conditions`: stronger conditions make a narrower search.
- `Search.Narrows.ranked`: the rankings of the two.
- `Search.stronger_checks_narrow`: the checks, the searches for the same terms with one call
  after the other, and the searches before and after the placement is changed.
-/

namespace TermSearch

open Text (Placement)

/-! ## Verdicts -/

namespace Verdict

/-- Where the one verdict is a yes, the other one is not a no. It may still end in a fault. -/
def Implies (v w : Verdict) : Prop :=
  v = .ok true → w ≠ .ok false

theorem Implies.refl (v : Verdict) : Implies v v := by
  rintro rfl
  simp

/-- Verdicts of the same things, where each of the one sort implies the other one. -/
theorem forall₂_implies_map {α : Type} {f g : α → Verdict} (h : ∀ a, Implies (f a) (g a))
    (l : List α) : List.Forall₂ Implies (l.map f) (l.map g) :=
  List.forall₂_map_left_iff.mpr
    (List.forall₂_map_right_iff.mpr (List.forall₂_same.mpr fun a _ => h a))

/-- A disjunction of weaker parts is weaker. -/
theorem Implies.any {vs ws : List Verdict} (h : List.Forall₂ Implies vs ws) :
    Implies (any vs) (any ws) := by
  induction h with
  | nil => exact .refl _
  | @cons v w vs ws hfirst _ ih =>
    intro hyes
    rcases w with fault | _ | _
    · simp [any_cons_of_not_isNo (isNo_error fault)]
    · -- the first part of either is a no, and the others decide
      have hno : isNo v = true := by
        rcases v with fault | _ | _
        · simp [any_cons_of_not_isNo (isNo_error fault)] at hyes
        · rfl
        · exact absurd rfl (hfirst rfl)
      rw [any_cons_of_isNo hno] at hyes
      rw [any_cons_of_isNo rfl]
      exact ih hyes
    · simp [any_cons_of_not_isNo (isNo_ok true)]

/-- A conjunction of weaker parts is weaker. -/
theorem Implies.every {vs ws : List Verdict} (h : List.Forall₂ Implies vs ws) :
    Implies (every vs) (every ws) := by
  induction h with
  | nil => exact .refl _
  | @cons v w vs ws hfirst _ ih =>
    intro hyes
    -- the first part is a yes, so that the others decide
    have hv : v = .ok true := by
      rcases v with fault | _ | _
      · simp [every_cons_of_not_isYes (isYes_error fault)] at hyes
      · simp [every_cons_of_not_isYes (isYes_ok false)] at hyes
      · rfl
    rw [every_cons_of_isYes (isYes_eq_true_iff.mpr hv)] at hyes
    rcases w with fault | _ | _
    · simp [every_cons_of_not_isYes (isYes_error fault)]
    · exact absurd rfl (hfirst hv)
    · rw [every_cons_of_isYes rfl]
      exact ih hyes

end Verdict

/-! ## Conditions -/

namespace Condition

/-- A condition is stronger than another one on the same terms: what matches under it matches
under the other one, and no value has more hits. -/
structure Narrows (condition wider : Condition) : Prop where
  groups : wider.groups = condition.groups
  check : ∀ value term, condition.check value term = true → wider.check value term = true
  hitsIn : ∀ value, condition.hitsIn value ≤ wider.hitsIn value

theorem Narrows.refl (condition : Condition) : condition.Narrows condition :=
  ⟨rfl, fun _ _ => id, fun _ => Nat.le_refl _⟩

theorem forall₂_narrows_refl (conditions : List Condition) :
    List.Forall₂ Narrows conditions conditions :=
  List.forall₂_same.mpr fun condition _ => .refl condition

/-- Where a stronger condition holds, a weaker one does if it does not end in a fault. -/
theorem Narrows.verdict {condition wider : Condition} (h : condition.Narrows wider)
    (accessors : List Accessor) (item : Value) :
    Verdict.Implies (condition.verdict accessors item) (wider.verdict accessors item) := by
  have hproperty : ∀ terms accessor, Verdict.Implies (condition.propertyVerdict item terms accessor)
      (wider.propertyVerdict item terms accessor) := by
    intro terms accessor hyes
    rw [propertyVerdict] at hyes ⊢
    cases hread : (accessor.read item).result with
    | error fault => simp [Except.map]
    | ok value =>
      rw [hread] at hyes
      obtain ⟨term, hterm, hcheck⟩ := List.any_eq_true.mp (Except.ok.inj hyes)
      have hany : terms.any (wider.check value) = true :=
        List.any_eq_true.mpr ⟨term, hterm, h.check value term hcheck⟩
      simp [Except.map, hany]
  have hgroup : ∀ terms, Verdict.Implies (condition.groupVerdict accessors item terms)
      (wider.groupVerdict accessors item terms) := by
    intro terms
    exact .any (Verdict.forall₂_implies_map (hproperty terms) accessors)
  rw [Condition.verdict, Condition.verdict, h.groups]
  exact .every (Verdict.forall₂_implies_map hgroup condition.groups)

variable (terms : List String) (comparison : Comparison) (placement : Placement)

theorem narrows_startingWith_of_equalTo :
    Narrows ⟨.equalTo, terms, comparison, placement⟩
      ⟨.startingWith, terms, comparison, placement⟩ :=
  ⟨rfl, fun _ _ => Comparison.startsWith_of_equals, fun _ => Nat.zero_le _⟩

theorem narrows_endingWith_of_equalTo :
    Narrows ⟨.equalTo, terms, comparison, placement⟩ ⟨.endingWith, terms, comparison, placement⟩ :=
  ⟨rfl, fun _ _ => Comparison.endsWith_of_equals, fun _ => Nat.zero_le _⟩

theorem narrows_containing_of_equalTo :
    Narrows ⟨.equalTo, terms, comparison, placement⟩ ⟨.containing, terms, comparison, placement⟩ :=
  ⟨rfl, fun _ _ h => Comparison.contains_of_equals h placement, fun _ => Nat.zero_le _⟩

theorem narrows_containing_of_startingWith :
    Narrows ⟨.startingWith, terms, comparison, .anywhere⟩
      ⟨.containing, terms, comparison, .anywhere⟩ :=
  ⟨rfl, fun _ _ => Comparison.contains_of_startsWith, fun _ => Nat.zero_le _⟩

theorem narrows_containing_of_endingWith :
    Narrows ⟨.endingWith, terms, comparison, .anywhere⟩
      ⟨.containing, terms, comparison, .anywhere⟩ :=
  ⟨rfl, fun _ _ => Comparison.contains_of_endsWith, fun _ => Nat.zero_le _⟩

/-- Under no placement is a condition weaker than anywhere. -/
theorem narrows_anywhere (operation : Operation) :
    Narrows ⟨operation, terms, comparison, placement⟩
      ⟨operation, terms, comparison, .anywhere⟩ where
  groups := rfl
  check value term h := by
    cases operation with
    | containing => exact Comparison.contains_anywhere h
    | containingAll => exact Comparison.contains_anywhere h
    | _ => exact h
  hitsIn value := by
    have hcount : countIn ⟨operation, terms, comparison, placement⟩ value ≤
        countIn ⟨operation, terms, comparison, .anywhere⟩ value := by
      rw [countIn_eq_sum, countIn_eq_sum]
      exact List.sum_le_sum fun term _ =>
        comparison.countOccurrences_le_anywhere placement value term
    cases operation with
    | containing => exact hcount
    | containingAll => exact hcount
    | _ => exact Nat.le_refl 0

end Condition

/-- Calls that are made where terms are looked for anywhere add weaker conditions than those
that are made under another placement, up to the next one that chooses a placement. -/
theorem Call.forall₂_narrows_conditions (comparison : Comparison) {placement wider : Placement}
    (h : wider = placement ∨ wider = .anywhere) (calls : List Call) :
    List.Forall₂ Condition.Narrows (conditions comparison placement calls)
      (conditions comparison wider calls) := by
  induction calls generalizing comparison placement wider with
  | nil => exact .nil
  | cons call rest ih =>
    have hafter : placementAfter wider [call] = placementAfter placement [call] ∨
        placementAfter wider [call] = .anywhere := by
      unfold placementAfter
      cases ([call].filterMap placement?).getLast? with
      | none => exact h
      | some chosen => exact .inl rfl
    rw [conditions_cons, conditions_cons]
    refine List.rel_append ?_ (ih _ hafter)
    cases call with
    | filter operation terms =>
      refine .cons ?_ .nil
      rcases h with rfl | rfl
      · exact .refl _
      · exact Condition.narrows_anywhere _ comparison placement operation
    | _ => exact .nil

/-! ## Searches -/

namespace Search

/-- Every property of the item, in every stage, reads as a text or as nothing. -/
def Readable (s : Search) (item : Value) : Prop :=
  ∀ stage ∈ s.stages, stage.Readable item

/-- A source without unreadable items is gone through to its end, and its items are ranked. -/
theorem goes_through_of_readable {s : Search} {items : List Value}
    (h : ∀ item ∈ items, s.Readable item) :
    ∃ yielded ranked, (s.items (.ok items)).result = .ok yielded ∧
      (s.ranked (.ok items)).result = .ok ranked := by
  have hown : ∀ item ∈ items, s.own.Readable item := fun item hmem =>
    h item hmem s.own List.mem_cons_self
  rw [ranked_of_readable hown, items_result_of_isOk fun item hmem => ?_]
  · exact ⟨_, _, rfl, rfl⟩
  have hstages : s.stages.reverse.map (fun stage => stage.verdict item) =
      s.stages.reverse.map fun stage =>
        .ok (stage.conditions.all fun condition => condition.holdsOn (stage.texts item)) :=
    List.map_congr_left fun stage hstage =>
      Stage.verdict_of_readable (h item hmem stage (List.mem_reverse.mp hstage))
  rw [accepts_result, hstages, Verdict.every_map_ok]
  rfl

/-- A search yields a part of what another one does, in the same order, where both go through the
source; and whenever it counts the hits of an item, the other one counts no fewer. -/
structure Narrows (s wider : Search) : Prop where
  sublist : ∀ source yielded more, (s.items source).result = .ok yielded →
    (wider.items source).result = .ok more → yielded.Sublist more
  hits : ∀ item m, (s.countHits item).result = .ok m →
    ∃ n, (wider.countHits item).result = .ok n ∧ m ≤ n

/-- The ranking of a narrower search is a part of the ranking of the wider one, but for its
hits, which may be fewer. -/
theorem Narrows.ranked {s wider : Search} (h : s.Narrows wider) {source : Except Fault (List Value)}
    {ranked more : List RankedItem} (hranked : (s.ranked source).result = .ok ranked)
    (hmore : (wider.ranked source).result = .ok more) :
    List.SublistForall₂ (fun a b => a.item = b.item ∧ a.hits ≤ b.hits) ranked more := by
  cases source with
  | error fault => exact nomatch hranked
  | ok items =>
    have hsublist := h.sublist _ _ _ (items_result_of_ranked hranked) (items_result_of_ranked hmore)
    obtain ⟨part, hpart, hitems⟩ := List.sublist_map_iff.mp hsublist
    refine List.sublistForall₂_iff.mpr ⟨part, List.forall₂_iff_zip.mpr ⟨?_, ?_⟩, hpart⟩
    · simpa using congrArg List.length hitems
    · intro a b hzip
      obtain ⟨ha, hb⟩ := List.of_mem_zip hzip
      -- entries at the same place have the same item, and each has the hits that are counted for it
      have hitem : a.item = b.item := by
        have hsame : List.Forall₂ (fun a b : RankedItem => a.item = b.item) ranked part := by
          rw [← List.forall₂_map_right_iff, ← List.forall₂_map_left_iff, List.forall₂_eq_eq_eq]
          exact hitems
        exact (List.forall₂_iff_zip.mp hsame).2 hzip
      obtain ⟨n, hn, hle⟩ := h.hits _ _ (countHits_of_mem_ranked hranked ha)
      rw [hitem, countHits_of_mem_ranked hmore (hpart.subset hb)] at hn
      obtain rfl := Except.ok.inj hn
      exact ⟨hitem, hle⟩

/-- Where a search accepts what another one does, as far as that is free of faults, it yields
all that the other one yields. -/
theorem sublist_of_implies {s wider : Search} {source : Except Fault (List Value)}
    {yielded more : List Value}
    (h : ∀ item, Verdict.Implies (s.accepts item).result (wider.accepts item).result)
    (hyielded : (s.items source).result = .ok yielded)
    (hmore : (wider.items source).result = .ok more) : yielded.Sublist more := by
  cases source with
  | error fault => exact nomatch hyielded
  | ok items =>
    obtain ⟨-, rfl⟩ := items_result_eq_ok_iff.mp hyielded
    obtain ⟨hok, rfl⟩ := items_result_eq_ok_iff.mp hmore
    -- what the one yields is what it keeps of the items that the other one yields
    have hkeeps : (items.filter fun item => Verdict.isYes (s.accepts item).result) =
        (items.filter fun item => Verdict.isYes (wider.accepts item).result).filter fun item =>
          Verdict.isYes (s.accepts item).result := by
      rw [List.filter_filter]
      refine List.filter_congr fun item hmem => ?_
      cases hyes : Verdict.isYes (s.accepts item).result with
      | false => rfl
      | true =>
        have hno := h item (Verdict.isYes_eq_true_iff.mp hyes)
        have hitem := hok item hmem
        rcases hresult : (wider.accepts item).result with fault | _ | _
        · rw [hresult] at hitem
          exact nomatch hitem
        · exact absurd hresult hno
        · rfl
    rw [hkeeps]
    exact List.filter_sublist

section

variable {accessors : List Accessor} {comparison other : Comparison} {placement wider : Placement}
  {conditions weaker : List Condition} {below : List Stage}

private theorem countHitsOver_le (h : List.Forall₂ Condition.Narrows conditions weaker)
    {item : Value} {counted : List Accessor} {m : Nat}
    (hm : (countHitsOver ⟨⟨accessors, comparison, placement, conditions⟩, below⟩ item
      counted).result = .ok m) :
    ∃ n, (countHitsOver ⟨⟨accessors, other, wider, weaker⟩, below⟩ item counted).result = .ok n ∧
      m ≤ n := by
  have hvalue : ∀ value, hitsIn ⟨⟨accessors, comparison, placement, conditions⟩, below⟩ value ≤
      hitsIn ⟨⟨accessors, other, wider, weaker⟩, below⟩ value := by
    intro value
    rw [hitsIn_eq, hitsIn_eq]
    refine List.Forall₂.sum_le_sum ?_
    exact List.rel_map (fun _ _ hnarrows => hnarrows.hitsIn value) h
  -- property by property, since the same ones are read
  induction counted generalizing m with
  | nil => exact ⟨m, hm, Nat.le_refl m⟩
  | cons accessor rest ih =>
    obtain ⟨value, hread, hm⟩ := Traced.result_bind_eq_ok_iff.mp hm
    obtain ⟨k, hk, hm⟩ := Traced.result_bind_eq_ok_iff.mp hm
    obtain rfl := Except.ok.inj hm
    obtain ⟨n, hn, hle⟩ := ih hk
    refine ⟨_, ?_, Nat.add_le_add (hvalue value) hle⟩
    rw [countHitsOver, Traced.bind_of_result_ok hread, Traced.bind_of_result_ok hn]
    rfl

/-- Stages with stronger conditions, among the same other stages. -/
private theorem accepts_implies (h : List.Forall₂ Condition.Narrows conditions weaker)
    (item : Value) :
    Verdict.Implies (accepts ⟨⟨accessors, comparison, placement, conditions⟩, below⟩ item).result
      (accepts ⟨⟨accessors, other, wider, weaker⟩, below⟩ item).result := by
  have hown : Verdict.Implies
      (Stage.verdict ⟨accessors, comparison, placement, conditions⟩ item)
      (Stage.verdict ⟨accessors, other, wider, weaker⟩ item) :=
    .every (List.rel_map (fun _ _ hnarrows => hnarrows.verdict accessors item) h)
  rw [accepts_result, accepts_result, List.map_reverse, List.map_reverse]
  refine .every (List.rel_reverse (.cons hown ?_))
  exact Verdict.forall₂_implies_map (fun stage => .refl _) below

/-- Stronger conditions make a narrower search. -/
theorem narrows_of_conditions (h : List.Forall₂ Condition.Narrows conditions weaker) :
    Narrows ⟨⟨accessors, comparison, placement, conditions⟩, below⟩
      ⟨⟨accessors, other, wider, weaker⟩, below⟩ where
  sublist _ _ _ hyielded hmore := sublist_of_implies (accepts_implies h) hyielded hmore
  hits _ _ hm := countHitsOver_le h hm

end

/-! ## Calls -/

/-- Calls leave the properties, so that the same items can be read behind them. -/
theorem readable_after {s : Search} {calls : List Call} {item : Value} (h : s.Readable item) :
    Readable ⟨s.own.after calls, s.below⟩ item := by
  obtain ⟨hown, hbelow⟩ := List.forall_mem_cons.mp h
  exact List.forall_mem_cons.mpr ⟨hown, hbelow⟩

/-- A call that adds a stronger condition than another call, in front of the same further calls. -/
theorem narrows_of_filter (s : Search) {operation weaker : Operation} {terms : List String}
    (hblank : ∀ term ∈ terms, Text.isBlank term = false)
    (h : (s.condition operation terms).Narrows (s.condition weaker terms)) (after : List Call) :
    Narrows ⟨s.own.after (.filter operation (terms.map .text) :: after), s.below⟩
      ⟨s.own.after (.filter weaker (terms.map .text) :: after), s.below⟩ := by
  -- none of the terms is dropped, even where blank ones are
  have husable : ∀ keepsBlank, Terms.usable keepsBlank (terms.map .text) = terms := by
    intro keepsBlank
    have hall : Text.nonBlank terms = terms :=
      List.filter_eq_self.mpr fun term hterm => by simp [hblank term hterm]
    rw [Terms.usable_map_text, hall, ite_self]
  rw [Stage.after_filter_cons, Stage.after_filter_cons, husable, husable]
  exact narrows_of_conditions (List.rel_append (Condition.forall₂_narrows_refl _)
    (.cons h (Condition.forall₂_narrows_refl _)))

/-- Calls that are made where terms are looked for under another placement, and the same calls where
they are looked for anywhere. -/
theorem narrows_of_placement (s : Search) (placement : Placement) (calls : List Call) :
    Narrows ⟨s.own.after (.setPlacement (.text placement.label) :: calls), s.below⟩
      ⟨s.own.after (.setPlacement (.text Placement.anywhere.label) :: calls), s.below⟩ := by
  refine narrows_of_conditions (List.rel_append (Condition.forall₂_narrows_refl _) ?_)
  -- behind the two calls, the others add conditions under the placement that was chosen
  have hchosen : ∀ chosen : Placement, Call.placementAfter s.own.placement
      [.setPlacement (.text chosen.label)] = chosen := by
    intro chosen
    simp [Call.placementAfter, Call.placement?, Placement.ofValue_label, Except.toOption]
  rw [Call.conditions_cons, Call.conditions_cons, hchosen, hchosen]
  exact Call.forall₂_narrows_conditions _ (.inr rfl) calls

/-- What is implied among the checks of one value against one term, and among the counts.

So, for terms that are not blank, a search for items that are one of them yields a part of those
that start, that end with, or that contain one of them; and items that start or end with one of
them are a part of those that contain one, where the search looks for terms anywhere. Whatever
calls follow, they yield a part in either case. A search that looks for terms as whole words
yields a part of what it yields if it looks for them anywhere, and counts no more hits. A source
without unreadable items is gone through by all of these searches. -/
theorem stronger_checks_narrow {s : Search} {terms : List String} {after : List Call}
    (hterms : terms ≠ []) (hblank : ∀ term ∈ terms, Text.isBlank term = false)
    (hafter : ∀ call ∈ after, call.fault? = none) :
    (∀ (c : Comparison) (value : Option String) (term : String), c.Graded value term) ∧
    ∃ equal starting ending containing whole anywhere,
      (s.callAll (.filter .equalTo (terms.map .text) :: after)).result = .ok equal ∧
      (s.callAll (.filter .startingWith (terms.map .text) :: after)).result = .ok starting ∧
      (s.callAll (.filter .endingWith (terms.map .text) :: after)).result = .ok ending ∧
      (s.callAll (.filter .containing (terms.map .text) :: after)).result = .ok containing ∧
      (s.callAll (.setPlacement (.text Placement.wholeWords.label) ::
        .filter .containing (terms.map .text) :: after)).result = .ok whole ∧
      (s.callAll (.setPlacement (.text Placement.anywhere.label) ::
        .filter .containing (terms.map .text) :: after)).result = .ok anywhere ∧
      equal.Narrows starting ∧ equal.Narrows ending ∧ equal.Narrows containing ∧
      (s.own.placement = .anywhere → starting.Narrows containing ∧ ending.Narrows containing) ∧
      whole.Narrows anywhere ∧
      (∀ source ranked more, (whole.ranked source).result = .ok ranked →
        (anywhere.ranked source).result = .ok more →
        List.SublistForall₂ (fun a b => a.item = b.item ∧ a.hits ≤ b.hits) ranked more) ∧
      ∀ items, (∀ item ∈ items, s.Readable item) →
        ∀ made ∈ [equal, starting, ending, containing, whole, anywhere], ∃ yielded ranked,
          (made.items (.ok items)).result = .ok yielded ∧
          (made.ranked (.ok items)).result = .ok ranked := by
  have husable : Text.nonBlank terms ≠ [] := by
    rwa [Text.nonBlank, List.filter_eq_self.mpr fun term hterm => by simp [hblank term hterm]]
  have hfilter : ∀ operation,
      ∀ call ∈ Call.filter operation (terms.map .text) :: after, call.fault? = none :=
    fun operation => List.forall_mem_cons.mpr ⟨Call.fault?_filter_text husable, hafter⟩
  have hplaced : ∀ chosen : Placement, ∀ call ∈ Call.setPlacement (.text chosen.label) ::
      .filter .containing (terms.map .text) :: after, call.fault? = none := by
    refine fun chosen => List.forall_mem_cons.mpr ⟨?_, hfilter .containing⟩
    rw [Call.fault?, Placement.ofValue_label, Call.faultOf]
  -- behind whatever calls, the items can be read that could be before
  have hsource : ∀ items, (∀ item ∈ items, s.Readable item) → ∀ calls, ∃ yielded ranked,
      (Search.items ⟨s.own.after calls, s.below⟩ (.ok items)).result = .ok yielded ∧
      (Search.ranked ⟨s.own.after calls, s.below⟩ (.ok items)).result = .ok ranked :=
    fun items hread calls =>
      goes_through_of_readable fun item hmem => readable_after (hread item hmem)
  have hwhole := s.narrows_of_placement .wholeWords (.filter .containing (terms.map .text) :: after)
  refine ⟨Comparison.graded, _, _, _, _, _, _, callAll_result_eq_ok_iff.mpr ⟨hfilter _, rfl⟩,
    callAll_result_eq_ok_iff.mpr ⟨hfilter _, rfl⟩, callAll_result_eq_ok_iff.mpr ⟨hfilter _, rfl⟩,
    callAll_result_eq_ok_iff.mpr ⟨hfilter _, rfl⟩, callAll_result_eq_ok_iff.mpr ⟨hplaced _, rfl⟩,
    callAll_result_eq_ok_iff.mpr ⟨hplaced _, rfl⟩,
    s.narrows_of_filter hblank (Condition.narrows_startingWith_of_equalTo _ _ _) after,
    s.narrows_of_filter hblank (Condition.narrows_endingWith_of_equalTo _ _ _) after,
    s.narrows_of_filter hblank (Condition.narrows_containing_of_equalTo _ _ _) after,
    fun hplacement => ⟨s.narrows_of_filter hblank ?_ after, s.narrows_of_filter hblank ?_ after⟩,
    hwhole, fun _ _ _ => hwhole.ranked, fun items hread => ?_⟩
  · rw [condition, condition, hplacement]
    exact Condition.narrows_containing_of_startingWith _ _
  · rw [condition, condition, hplacement]
    exact Condition.narrows_containing_of_endingWith _ _
  · simp only [List.forall_mem_cons, List.not_mem_nil, false_implies, implies_true, and_true]
    exact ⟨hsource items hread _, hsource items hread _, hsource items hread _,
      hsource items hread _, hsource items hread _, hsource items hread _⟩

/-- Two terms, on a search that looks for them anywhere and has another condition behind. -/
theorem stronger_checks_narrow_for_two_terms :
    ∃ equal starting containing : Search,
      ((start ⟨[.named "name"], ⟨.ordinal, true⟩, .anywhere, []⟩).callAll
        [.filter .equalTo [.text "ann", .text "bob"], .filter .endingWith [.text "n"]]).result =
          .ok equal ∧
      ((start ⟨[.named "name"], ⟨.ordinal, true⟩, .anywhere, []⟩).callAll
        [.filter .startingWith [.text "ann", .text "bob"],
          .filter .endingWith [.text "n"]]).result = .ok starting ∧
      ((start ⟨[.named "name"], ⟨.ordinal, true⟩, .anywhere, []⟩).callAll
        [.filter .containing [.text "ann", .text "bob"], .filter .endingWith [.text "n"]]).result =
          .ok containing ∧
      equal.Narrows starting ∧ starting.Narrows containing := by
  have hterms : ["ann", "bob"] ≠ [] := by decide
  have hblank : ∀ term ∈ ["ann", "bob"], Text.isBlank term = false := by decide +kernel
  have hafter : ∀ call ∈ [Call.filter .endingWith [.text "n"]], call.fault? = none := by
    decide +kernel
  obtain ⟨-, equal, starting, _, containing, _, _, hequal, hstarting, -, hcontaining, -, -,
    hnarrows, -, -, hanywhere, -⟩ := stronger_checks_narrow
      (s := start ⟨[.named "name"], ⟨.ordinal, true⟩, .anywhere, []⟩) hterms hblank hafter
  exact ⟨equal, starting, containing, hequal, hstarting, hcontaining, hnarrows, (hanywhere rfl).1⟩

/-- Where a search looks for terms as whole words, an item may start with a term and not contain
it. -/
theorem starting_exceeds_containing_whole_words :
    ∃ starting containing yielded more,
      Text.isBlank "a" = false ∧
      (∀ item ∈ [Value.map [("name", .text "ab")]],
        (start ⟨[.named "name"], ⟨.ordinal, false⟩, .wholeWords, []⟩).Readable item) ∧
      ((start ⟨[.named "name"], ⟨.ordinal, false⟩, .wholeWords, []⟩).callAll
        [.filter .startingWith [.text "a"]]).result = .ok starting ∧
      ((start ⟨[.named "name"], ⟨.ordinal, false⟩, .wholeWords, []⟩).callAll
        [.filter .containing [.text "a"]]).result = .ok containing ∧
      (starting.items (.ok [.map [("name", .text "ab")]])).result = .ok yielded ∧
      (containing.items (.ok [.map [("name", .text "ab")]])).result = .ok more ∧
      ¬ yielded.Sublist more := by
  refine ⟨_, _, [.map [("name", .text "ab")]], [], by decide +kernel, ?_,
    callAll_result_eq_ok_iff.mpr ⟨by decide +kernel, rfl⟩,
    callAll_result_eq_ok_iff.mpr ⟨by decide +kernel, rfl⟩, ?_, ?_, by simp⟩
  · intro item hitem stage hstage
    obtain rfl := List.mem_singleton.mp hitem
    obtain rfl := List.mem_singleton.mp hstage
    exact Stage.readable_named "name" "ab"
  · rfl
  · -- the term stands inside a word of the item
    refine items_result_eq_ok_iff.mpr ⟨?_, ?_⟩
    · simp only [List.forall_mem_singleton]
      decide +kernel
    · rw [List.filter_singleton]
      decide +kernel

end Search

end TermSearch
