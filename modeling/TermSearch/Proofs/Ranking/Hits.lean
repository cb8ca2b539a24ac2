import Mathlib.Algebra.BigOperators.Group.List.Basic
import Mathlib.Algebra.GroupWithZero.Nat
import TermSearch.Proofs.Accessor
import TermSearch.Proofs.Search.Filtering
import TermSearch.Ranking

/-!
# Hits

What the hits of an item come to, said of the calls of a search and the texts of the item. Each
call on containment has hits of its own, under the settings in force when it was made; calls of
other sorts have none. The hits of an item are the hits of all calls together.

## Main definitions

- `Comparison.occurrences`: the occurrences of a term in texts.
- `Call.hits`: the hits of one call.
- `Call.totalHits`: the hits of calls in a row.
- `Stage.hitsOf`: the hits of an item.

## Main statements

- `Search.rank_of_readable`: an item is ranked by the hits of the conditions on its texts.
- `Search.ranked_result_ne_negativeHits`: no ranking finds that hits are below zero.
- `Search.hits_of_chain`: the hits that a chain of calls gives.
-/

namespace TermSearch

open Text (Placement)

/-! ## Hits of calls -/

/-- The occurrences of a term in texts. -/
def Comparison.occurrences (comparison : Comparison) (placement : Placement)
    (texts : List String) (term : String) : Nat :=
  (texts.map fun text =>
    Text.count placement (comparison.normalForm term.toList)
      (comparison.normalForm text.toList)).sum

namespace Call

/-- The hits of a call made under the given settings: the occurrences of its terms that are not
blank, if it is a call on containment. -/
def hits (comparison : Comparison) (placement : Placement) (texts : List String) : Call → Nat
  | .filter .containing terms | .filter .containingAll terms =>
    ((Terms.usable false terms).map (comparison.occurrences placement texts)).sum
  | _ => 0

/-- The hits of calls in a row, each one made under the settings in force behind the calls
before it. -/
def totalHits (comparison : Comparison) (placement : Placement) (texts : List String)
    (calls : List Call) : Nat :=
  ((calls.inits.zip calls).map fun (before, call) =>
    call.hits (comparisonAfter comparison before) (placementAfter placement before) texts).sum

end Call

/-! ## Hits of conditions -/

namespace Condition

/-- The hits of a condition on texts. -/
def hits (condition : Condition) (texts : List String) : Nat :=
  if condition.isCounted then
    (condition.terms.map (condition.comparison.occurrences condition.placement texts)).sum
  else 0

/-- Counting a condition in a value sums over its terms. -/
theorem countIn_eq_sum (condition : Condition) (value : Option String) :
    condition.countIn value = (condition.terms.map fun term =>
      condition.comparison.countOccurrences condition.placement value term).sum := by
  rw [countIn, List.sum, List.foldr_map]

/-- A value that is absent holds no term. -/
theorem countIn_none (condition : Condition) : condition.countIn none = 0 := by
  simp [countIn_eq_sum, Comparison.countOccurrences]

theorem hits_nil (condition : Condition) : condition.hits [] = 0 := by
  have hnone : condition.comparison.occurrences condition.placement [] = fun _ => 0 := rfl
  simp [hits, hnone]

/-- The first of several texts has its own hits. -/
theorem hits_cons (condition : Condition) (text : String) (texts : List String) :
    condition.hits (text :: texts) =
      (if condition.isCounted then condition.countIn (some text) else 0) +
        condition.hits texts := by
  unfold hits
  split
  · rw [countIn_eq_sum, ← List.sum_map_add]
    rfl
  · rfl

end Condition

namespace Call

/-- Summing over what a list gives is summing over the list. -/
private theorem sum_map_filterMap {α β : Type} (f : α → Option β) (g : β → Nat) (l : List α) :
    ((l.filterMap f).map g).sum = (l.map fun a => (f a).elim 0 g).sum := by
  induction l with
  | nil => rfl
  | cons a rest ih =>
    rw [List.filterMap_cons, List.map_cons, List.sum_cons, ← ih]
    cases f a <;> simp

/-- A sum over the conditions that calls add is a sum over the calls. -/
theorem sum_conditions (comparison : Comparison) (placement : Placement) (calls : List Call)
    (f : Condition → Nat) :
    ((conditions comparison placement calls).map f).sum =
      ((calls.inits.zip calls).map fun (before, call) =>
        (call.condition? (comparisonAfter comparison before)
          (placementAfter placement before)).elim 0 f).sum :=
  sum_map_filterMap _ _ _

/-- The conditions that calls add have the hits of the calls. -/
theorem sum_hits_conditions (comparison : Comparison) (placement : Placement)
    (texts : List String) (calls : List Call) :
    ((conditions comparison placement calls).map fun condition => condition.hits texts).sum =
      totalHits comparison placement texts calls := by
  have hcall : ∀ (c : Comparison) (p : Placement) (call : Call),
      (call.condition? c p).elim 0 (fun condition => condition.hits texts) =
        call.hits c p texts := by
    intro c p call
    cases call with
    | filter operation terms => cases operation <;> rfl
    | _ => rfl
  rw [sum_conditions, totalHits]
  simp only [hcall]

/-- Calls have their hits apart from the calls in front of them, but for the settings that these
leave in force. -/
theorem totalHits_append (comparison : Comparison) (placement : Placement) (texts : List String)
    (before after : List Call) :
    totalHits comparison placement texts (before ++ after) =
      totalHits comparison placement texts before +
        totalHits (comparisonAfter comparison before) (placementAfter placement before) texts
          after := by
  simp only [← sum_hits_conditions, conditions_append, List.map_append, List.sum_append]

/-- A call that is not on containment has no hits. -/
theorem totalHits_singleton_eq_zero {comparison : Comparison} {placement : Placement}
    {texts : List String} {call : Call} (hany : ∀ terms, call ≠ .filter .containing terms)
    (hall : ∀ terms, call ≠ .filter .containingAll terms) :
    totalHits comparison placement texts [call] = 0 := by
  cases call with
  | filter operation terms =>
    cases operation with
    | containing => exact absurd rfl (hany terms)
    | containingAll => exact absurd rfl (hall terms)
    | _ => rfl
  | _ => rfl

end Call

/-! ## Ranks -/

/-- The hits of an item whose properties can all be read: those of the conditions on its texts. -/
def Stage.hitsOf (stage : Stage) (item : Value) : Nat :=
  (stage.conditions.map fun condition => condition.hits (stage.texts item)).sum

namespace Search

/-- Only the conditions that are counted have hits in a value. -/
theorem hitsIn_eq (s : Search) (value : Option String) :
    s.hitsIn value = (s.own.conditions.map fun condition =>
      if condition.isCounted then condition.countIn value else 0).sum := by
  rw [hitsIn, counted]
  induction s.own.conditions with
  | nil => rfl
  | cons condition rest ih =>
    rw [List.map_cons, List.sum_cons, ← ih, List.filter_cons]
    split
    · rw [List.foldr_cons]
    · rw [Nat.zero_add]

/-- Properties that can all be read have the hits of the conditions on their texts. -/
theorem countHitsOver_of_readable {s : Search} {item : Value} {accessors : List Accessor}
    (h : ∀ accessor ∈ accessors, ∃ value, (accessor.read item).result = .ok value) :
    (s.countHitsOver item accessors).result =
      .ok (s.own.conditions.map fun condition =>
        condition.hits (accessors.filterMap fun accessor => accessor.textOf item)).sum := by
  -- property by property, in the order in which their values are counted
  induction accessors with
  | nil => simp [countHitsOver, Condition.hits_nil]
  | cons accessor rest ih =>
    have hrest := ih fun other hmem => h other (List.mem_cons_of_mem accessor hmem)
    obtain ⟨value, hvalue⟩ := h accessor List.mem_cons_self
    have htext : accessor.textOf item = value := by
      rw [Accessor.textOf, hvalue]
      rfl
    rw [countHitsOver, Traced.bind_of_result_ok hvalue, Traced.bind_of_result_ok hrest,
      List.filterMap_cons, htext, hitsIn_eq]
    cases value with
    | none => simp [Condition.countIn_none]
    | some text => simp [Condition.hits_cons, List.sum_map_add]

/-- A number of hits passes its check, so an item is ranked where its hits are counted. -/
theorem rank_result (s : Search) (item : Value) :
    (s.rank item).result = (s.countHits item).result.map fun hits => ⟨hits, item⟩ := by
  rw [rank]
  cases h : (s.countHits item).result with
  | error fault =>
    rw [Traced.bind_of_result_error h]
    rfl
  | ok hits =>
    have hcheck : checkHits (.int hits) = .ok () := by simp [checkHits]
    rw [Traced.bind_of_result_ok h, hcheck]
    rfl

theorem countHits_of_readable {s : Search} {item : Value} (h : s.own.Readable item) :
    (s.countHits item).result = .ok (s.own.hitsOf item) :=
  countHitsOver_of_readable h

/-- An item is ranked by the hits of the conditions on its texts. -/
theorem rank_of_readable {s : Search} {item : Value} (h : s.own.Readable item) :
    (s.rank item).result =
      .ok ⟨(s.own.conditions.map fun condition =>
        condition.hits (s.own.texts item)).sum, item⟩ := by
  rw [rank_result, countHits, countHitsOver_of_readable h]
  rfl

/-- Where every property can be read, a ranking gives each item that the search yields its hits. -/
theorem ranked_of_readable {s : Search} {items : List Value}
    (h : ∀ item ∈ items, s.own.Readable item) :
    (s.ranked (.ok items)).result =
      (s.items (.ok items)).result.map (List.map fun item => ⟨s.own.hitsOf item, item⟩) := by
  rw [ranked, Search.items, traverse_ok, traverse_ok]
  exact visitAll_result_of_visit fun item hmem => rank_of_readable (h item hmem)

/-! ## Faults of rankings -/

/-- A ranking ends in a fault only where a property cannot be read. -/
theorem exists_read_of_rank_eq_error {s : Search} {item : Value} {fault : Fault}
    (h : (s.rank item).result = .error fault) :
    ∃ accessor : Accessor, (accessor.read item).result = .error fault := by
  have hover : ∀ accessors, (s.countHitsOver item accessors).result = .error fault →
      ∃ accessor : Accessor, (accessor.read item).result = .error fault := by
    intro accessors hfault
    induction accessors with
    | nil => simp [countHitsOver] at hfault
    | cons accessor rest ih =>
      rw [countHitsOver, Traced.result_bind_eq_error_iff] at hfault
      rcases hfault with hread | ⟨value, -, hfault⟩
      · exact ⟨accessor, hread⟩
      · rw [Traced.result_bind_eq_error_iff] at hfault
        rcases hfault with hmore | ⟨more, -, hsum⟩
        · exact ih hmore
        · simp at hsum
  rw [rank_result, countHits] at h
  cases hcount : (s.countHitsOver item s.own.accessors).result with
  | error cause =>
    obtain rfl : cause = fault := by simpa [hcount, Except.map] using h
    exact hover _ hcount
  | ok hits => simp [hcount, Except.map] at h

/-- No ranking finds that hits are below zero. -/
theorem ranked_result_ne_negativeHits (s : Search) (items : List Value) :
    (s.ranked (.ok items)).result ≠ .error .negativeHits := by
  intro h
  -- the fault would be one of reading a property
  rw [ranked, traverse_ok] at h
  obtain ⟨item, -, hfault⟩ := exists_of_visitAll_result_eq_error h
  obtain ⟨accessor, hread⟩ := hfault.elim exists_read_of_accepts_eq_error
    exists_read_of_rank_eq_error
  exact absurd (Accessor.isOfRead_of_read_eq_error hread) (by decide)

end Search

/-! ## Chains -/

/-- Behind calls, an item is ranked by the hits of the calls. -/
theorem Search.rank_after {stage : Stage} {below : List Stage} {item : Value}
    (hconditions : stage.conditions = []) (hread : stage.Readable item) (calls : List Call) :
    ((⟨stage.after calls, below⟩ : Search).rank item).result =
      .ok ⟨Call.totalHits stage.comparison stage.placement (stage.texts item) calls, item⟩ := by
  have hreadable : (stage.after calls).Readable item := hread
  rw [rank_of_readable hreadable, Stage.texts_after, Stage.after, hconditions, List.nil_append,
    Call.sum_hits_conditions]

/-- A search for one term that is not blank is made, and ranks items by its occurrences. -/
theorem Search.rank_of_containing {stage : Stage} {below : List Stage} {term : String}
    (hconditions : stage.conditions = []) (hterm : Text.isBlank term = false) :
    ∃ s : Search,
      ((⟨stage, below⟩ : Search).callAll [.filter .containing [.text term]]).result = .ok s ∧
        ∀ item, stage.Readable item → (s.rank item).result =
          .ok ⟨stage.comparison.occurrences stage.placement (stage.texts item) term, item⟩ := by
  have hfault : (Call.filter .containing [.text term]).fault? = none :=
    Call.fault?_filter_singleton hterm .containing
  refine ⟨_, callAll_result_eq_ok_iff.mpr ⟨by simpa using hfault, rfl⟩, fun item hread => ?_⟩
  rw [rank_after hconditions hread]
  simp [Call.totalHits, Call.hits, Terms.usable_singleton_text hterm]

/-- The hits of an item whose properties can all be read are the hits of the calls, each one
under the settings in force when it was made. Every term of a call has the hits that it has in a
search for this term alone. A call that is not on containment parts the hits into those of the
calls before it and those of the calls behind it, made on a search that begins with the settings
in force there. No ranking finds hits below zero. -/
theorem Search.hits_of_chain {selectors : List Selector} {comparison : Comparison}
    {placement : Placement} {stage : Stage} {below : List Stage} {calls : List Call} {s : Search}
    (hstage : Stage.ofSelectors selectors (.text comparison.label) (.text placement.label) =
      .ok stage)
    (hcalls : ((⟨stage, below⟩ : Search).callAll calls).result = .ok s) :
    (∀ item, stage.Readable item → (s.rank item).result =
      .ok ⟨Call.totalHits comparison placement (stage.texts item) calls, item⟩) ∧
    (∀ items, (∀ item ∈ items, stage.Readable item) → (s.ranked (.ok items)).result =
      (s.items (.ok items)).result.map (List.map fun item =>
        ⟨Call.totalHits comparison placement (stage.texts item) calls, item⟩)) ∧
    (∀ before operation terms after, calls = before ++ .filter operation terms :: after →
      ∀ term ∈ Terms.usable false terms, ∃ alone one,
        Stage.ofSelectors selectors (.text (Call.comparisonAfter comparison before).label)
          (.text (Call.placementAfter placement before).label) = .ok alone ∧
        ((⟨alone, below⟩ : Search).callAll [.filter .containing [.text term]]).result = .ok one ∧
        ∀ item, stage.Readable item → (one.rank item).result =
          .ok ⟨(Call.comparisonAfter comparison before).occurrences
            (Call.placementAfter placement before) (stage.texts item) term, item⟩) ∧
    (∀ before call after, calls = before ++ call :: after →
      (∀ terms, call ≠ .filter .containing terms) →
      (∀ terms, call ≠ .filter .containingAll terms) → ∃ front begun back,
        ((⟨stage, below⟩ : Search).callAll before).result = .ok front ∧
        Stage.ofSelectors selectors
          (.text (Call.comparisonAfter comparison (before ++ [call])).label)
          (.text (Call.placementAfter placement (before ++ [call])).label) = .ok begun ∧
        ((⟨begun, below⟩ : Search).callAll after).result = .ok back ∧
        ∀ item, stage.Readable item → ∃ m n,
          (front.rank item).result = .ok ⟨m, item⟩ ∧ (back.rank item).result = .ok ⟨n, item⟩ ∧
            (s.rank item).result = .ok ⟨m + n, item⟩) ∧
    ∀ items, (s.ranked (.ok items)).result ≠ .error .negativeHits := by
  obtain ⟨rfl, rfl, hconditions⟩ := Stage.ofSelectors_label hstage
  obtain ⟨hfaults, rfl⟩ := callAll_result_eq_ok_iff.mp hcalls
  refine ⟨fun item hread => rank_after hconditions hread calls, fun items hread => ?_,
    fun before operation terms after hsplit term hterm => ?_,
    fun before call after hsplit hany hall => ?_,
    fun items => ranked_result_ne_negativeHits _ items⟩
  · rw [ranked, Search.items, traverse_ok, traverse_ok]
    exact visitAll_result_of_visit fun item hmem => rank_after hconditions (hread item hmem) calls
  · have hblank : Text.isBlank term = false := by simpa using (Terms.mem_usable_iff.mp hterm).2
    have halone := Stage.ofSelectors_of_label hstage
      (Call.comparisonAfter stage.comparison before) (Call.placementAfter stage.placement before)
    obtain ⟨one, hone, hranks⟩ := @rank_of_containing ⟨stage.accessors, _, _, []⟩ below term rfl
      hblank
    exact ⟨_, one, halone, hone, hranks⟩
  · subst hsplit
    -- both parts of the chain are made of calls that succeed
    have hbefore : ∀ other ∈ before, other.fault? = none := fun other hmem =>
      hfaults other (by simp [hmem])
    have hafter : ∀ other ∈ after, other.fault? = none := fun other hmem =>
      hfaults other (by simp [hmem])
    have hbegun := Stage.ofSelectors_of_label hstage
      (Call.comparisonAfter stage.comparison (before ++ [call]))
      (Call.placementAfter stage.placement (before ++ [call]))
    refine ⟨_, _, _, callAll_result_eq_ok_iff.mpr ⟨hbefore, rfl⟩, hbegun,
      callAll_result_eq_ok_iff.mpr ⟨hafter, rfl⟩, fun item hread => ?_⟩
    have hback := @rank_after ⟨stage.accessors, Call.comparisonAfter stage.comparison
      (before ++ [call]), Call.placementAfter stage.placement (before ++ [call]), []⟩ below item
      rfl hread after
    refine ⟨_, _, rank_after hconditions hread before, hback, ?_⟩
    -- the call between the parts has no hits
    rw [rank_after hconditions hread, List.append_cons, Call.totalHits_append,
      Call.totalHits_append, Call.totalHits_singleton_eq_zero hany hall]
    rfl

/-- Two terms that occur in one text, and a condition without hits between them. -/
theorem Search.hits_of_chain_in_banana :
    ∃ s : Search,
      ((start ⟨[.named "name"], ⟨.ordinal, false⟩, .anywhere, []⟩).callAll
        [.filter .containing [.text "an"], .filter .startingWith [.text "b"],
          .filter .containingAll [.text "n", .text " "]]).result = .ok s ∧
        (s.rank (.map [("name", .text "banana")])).result =
          .ok ⟨4, .map [("name", .text "banana")]⟩ := by
  have hstage : Stage.ofSelectors [.named "name"] (.text (Comparison.label ⟨.ordinal, false⟩))
      (.text Placement.anywhere.label) =
        .ok ⟨[.named "name"], ⟨.ordinal, false⟩, .anywhere, []⟩ :=
    Stage.ofSelectors_named (by decide +kernel) _ _
  have hcalls : ((start ⟨[.named "name"], ⟨.ordinal, false⟩, .anywhere, []⟩).callAll
      [.filter .containing [.text "an"], .filter .startingWith [.text "b"],
        .filter .containingAll [.text "n", .text " "]]).result = .ok _ :=
    callAll_result_eq_ok_iff.mpr ⟨by decide +kernel, rfl⟩
  have hread : (⟨[.named "name"], ⟨.ordinal, false⟩, .anywhere, []⟩ : Stage).Readable
      (.map [("name", .text "banana")]) := by
    intro accessor haccessor
    obtain rfl := List.mem_singleton.mp haccessor
    exact ⟨some "banana", rfl⟩
  have hhits : Call.totalHits ⟨.ordinal, false⟩ .anywhere ["banana"]
      [.filter .containing [.text "an"], .filter .startingWith [.text "b"],
        .filter .containingAll [.text "n", .text " "]] = 4 := by decide +kernel
  have hrank := (hits_of_chain hstage hcalls).1 _ hread
  exact ⟨_, hcalls, hrank.trans (congrArg (fun n => Except.ok (RankedItem.mk n _)) hhits)⟩

end TermSearch
