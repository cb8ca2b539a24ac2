import TermSearch.Proofs.Search.Chain
import TermSearch.Proofs.Search.Traversal
import TermSearch.Ranking

/-!
# Log Records of a Search

What a search logs. A call logs one record if it takes up a condition, and nothing otherwise. Going
through the source, the stages that have conditions announce themselves, and all of this comes
first. Trying an item and counting its hits is quiet, so nothing else is logged but for the record
of a ranking that was completed and put in order.

## Main definitions

- `Trace.IsQuiet`: nothing is logged and nothing is printed.

## Main statements

- `Search.call_trace`: what a call logs.
- `Search.traverse_trace`, `Search.rankedByHits_trace`: what is logged along a source.
-/

namespace TermSearch

/-! ## Quiet computations -/

/-- Whether an event is neither logged nor printed. -/
def Event.isQuiet (event : Event) : Bool :=
  event.record?.isNone && event.line?.isNone

/-- Nothing is logged and nothing is printed. -/
def Trace.IsQuiet (trace : Trace) : Prop :=
  ∀ event ∈ trace, event.isQuiet = true

namespace Trace.IsQuiet

variable {α β : Type} {x : Traced Event α} {trace : Trace}

theorem records (h : IsQuiet trace) : Trace.records trace = [] := by
  rw [Trace.records, List.filterMap_eq_nil_iff]
  intro event hmem
  have hquiet := h event hmem
  rw [Event.isQuiet, Bool.and_eq_true] at hquiet
  exact Option.isNone_iff_eq_none.mp hquiet.1

theorem lines (h : IsQuiet trace) : Trace.lines trace = [] := by
  rw [Trace.lines, List.filterMap_eq_nil_iff]
  intro event hmem
  have hquiet := h event hmem
  rw [Event.isQuiet, Bool.and_eq_true] at hquiet
  exact Option.isNone_iff_eq_none.mp hquiet.2

theorem nil : IsQuiet [] := nofun

/-- Two quiet computations in a row are quiet. -/
theorem bind {f : α → Traced Event β} (hx : IsQuiet x.trace) (hf : ∀ a, IsQuiet (f a).trace) :
    IsQuiet (x >>= f).trace := by
  cases h : x.result with
  | error fault => rwa [Traced.bind_of_result_error h]
  | ok a =>
    rw [Traced.bind_of_result_ok h]
    exact List.forall_mem_append.mpr ⟨hx, hf a⟩

theorem map (h : IsQuiet x.trace) (f : α → β) : IsQuiet (f <$> x).trace := by
  rwa [Traced.trace_map]

theorem record {event : Event} (h : event.isQuiet = true) : IsQuiet (Traced.record event).trace :=
  List.forall_mem_singleton.mpr h

variable {predicates : List (Predicate Event Value)} {item : Value}

/-- A disjunction of quiet parts is quiet. -/
theorem anyOf (h : ∀ p ∈ predicates, IsQuiet (p item).trace) :
    IsQuiet (TermSearch.anyOf predicates item).trace := by
  rw [anyOf_eq]
  exact List.forall_mem_flatMap.mpr fun p hp => h p (mem_of_mem_upToFirst hp)

/-- A conjunction of quiet parts is quiet. -/
theorem allOf (h : ∀ p ∈ predicates, IsQuiet (p item).trace) :
    IsQuiet (TermSearch.allOf predicates item).trace := by
  rw [allOf_eq]
  exact List.forall_mem_flatMap.mpr fun p hp => h p (mem_of_mem_upToFirst hp)

end Trace.IsQuiet

/-! ## Items -/

theorem Accessor.isQuiet_read (accessor : Accessor) (item : Value) :
    Trace.IsQuiet (accessor.read item).trace := by
  induction accessor with
  | named name => exact Trace.IsQuiet.nil
  | computed extractor =>
    exact (Trace.IsQuiet.record rfl).bind fun _ => Trace.IsQuiet.nil
  | wrapped inner ih => exact ih

theorem isQuiet_someMatch (check : Check) (accessors : List Accessor) (terms : List String)
    (item : Value) : Trace.IsQuiet (someMatch check accessors terms item).trace := by
  refine Trace.IsQuiet.anyOf (List.forall_mem_map.mpr fun accessor _ => ?_)
  refine (accessor.isQuiet_read item).bind fun value => ?_
  rw [matchTerms_eq]
  exact List.forall_mem_map.mpr fun term _ => rfl

theorem Condition.isQuiet_holds (condition : Condition) (accessors : List Accessor)
    (item : Value) : Trace.IsQuiet (condition.holds accessors item).trace := by
  unfold holds
  cases condition.operation with
  | containingAll =>
    exact Trace.IsQuiet.allOf (List.forall_mem_map.mpr fun term _ =>
      isQuiet_someMatch condition.check accessors [term] item)
  | _ => exact isQuiet_someMatch condition.check accessors condition.terms item

theorem Stage.isQuiet_accepts (stage : Stage) (item : Value) :
    Trace.IsQuiet (stage.accepts item).trace :=
  Trace.IsQuiet.allOf (List.forall_mem_map.mpr fun condition _ =>
    condition.isQuiet_holds stage.accessors item)

namespace Search

theorem isQuiet_accepts (s : Search) (item : Value) : Trace.IsQuiet (s.accepts item).trace :=
  Trace.IsQuiet.allOf (List.forall_mem_map.mpr fun stage _ => stage.isQuiet_accepts item)

theorem isQuiet_countHits (s : Search) (item : Value) : Trace.IsQuiet (s.countHits item).trace := by
  rw [countHits]
  induction s.own.accessors with
  | nil => exact Trace.IsQuiet.nil
  | cons accessor rest ih =>
    exact (accessor.isQuiet_read item).bind fun _ => ih.bind fun _ => Trace.IsQuiet.nil

theorem isQuiet_rank (s : Search) (item : Value) : Trace.IsQuiet (s.rank item).trace :=
  (s.isQuiet_countHits item).bind fun _ =>
    Trace.IsQuiet.bind Trace.IsQuiet.nil fun _ => Trace.IsQuiet.nil

end Search

/-! ## Sources -/

section

variable {β : Type} {accepts : Predicate Event Value} {visit : Value → Traced Event β}

/-- Going through items is quiet where trying and visiting them is. -/
theorem isQuiet_visitAll (haccepts : ∀ item, Trace.IsQuiet (accepts item).trace)
    (hvisit : ∀ item, Trace.IsQuiet (visit item).trace) (items : List Value) :
    Trace.IsQuiet (visitAll accepts visit items).trace := by
  induction items with
  | nil => exact Trace.IsQuiet.nil
  | cons item rest ih =>
    refine (Trace.IsQuiet.record rfl).bind fun _ => (haccepts item).bind fun accepted => ?_
    cases accepted with
    | false => exact ih
    | true => exact (hvisit item).bind fun _ => ih.bind fun _ => Trace.IsQuiet.nil

end

namespace Search

/-- The stages that have conditions announce themselves before anything else is known of the source,
and nothing more is logged. -/
theorem traverse_trace {β : Type} {visit : Value → Traced Event β}
    (hvisit : ∀ item, Trace.IsQuiet (visit item).trace) (s : Search)
    (source : Except Fault (List Value)) :
    ∃ rest, (s.traverse visit source).trace = s.announcements.map .logged ++ rest ∧
      Trace.IsQuiet rest := by
  cases source with
  | error fault =>
    exact ⟨[], by rw [List.append_nil, traverse, Traced.bind_of_result_error rfl]; rfl,
      Trace.IsQuiet.nil⟩
  | ok items =>
    exact ⟨_, congrArg Traced.trace (traverse_ok s visit items),
      isQuiet_visitAll s.isQuiet_accepts hvisit items⟩

theorem ranked_trace (s : Search) (source : Except Fault (List Value)) :
    ∃ rest, (s.ranked source).trace = s.announcements.map .logged ++ rest ∧ Trace.IsQuiet rest :=
  s.traverse_trace s.isQuiet_rank source

/-- The number of results is logged last, where there are results. -/
theorem rankedByHits_trace (s : Search) (source : Except Fault (List Value)) :
    (s.rankedByHits source).trace = (s.ranked source).trace ++
      match (s.rankedByHits source).result with
      | .ok results => [.logged (rankingRecord results.length)]
      | .error _ => [] := by
  rw [rankedByHits]
  cases h : (s.ranked source).result with
  | error fault => rw [Traced.bind_of_result_error h, List.append_nil]
  | ok ranked =>
    rw [Traced.bind_of_result_ok h, Traced.bind_of_result_ok (Traced.result_record _)]
    simp [orderByHits]

end Search

end TermSearch
