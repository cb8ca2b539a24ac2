import TermSearch.Proofs.Search.Traversal

/-!
# Flows of Items

What whoever asks for one item after the other gets to see: the events on the way to an item, the
item, the events on the way to the next one, and at last the end or a fault. A stage takes such a
flow from what is below it and gives another: it tries each item when it comes, and hands it on or
goes on to the next one. So stages on top of each other take turns item by item.

A search is given as its stages on top of each other, each one with a flow of its own. Its items
come in the same flow as if a single stage tried them all.

## Main definitions

- `Flow`: items as they come, with the events between them.
- `Flow.keep`: what a stage hands on.
- `Search.flow`: the flow of a search, stage upon stage.

## Main statements

- `Flow.keep_keep`: trying items twice in a row is trying them once by both.
- `Search.flow_eq`: the flow of a search, by the conjunction of its stages.
- `Search.run_flow`: a flow that is gone through to its end is the iteration of the search.
-/

namespace TermSearch

/-- Items as they come, with the events between them, up to the end or a fault. -/
inductive Flow where
  | ended
  | failed (fault : Fault)
  | event (event : Event) (rest : Flow)
  | item (item : Value) (rest : Flow)

namespace Flow

/-- The flow of a list: each item is taken when it is asked for. -/
def ofList : List Value → Flow
  | [] => ended
  | v :: rest => event (.pulled v) (item v (ofList rest))

/-- A flow behind events. -/
def behind (trace : Trace) (flow : Flow) : Flow :=
  trace.foldr event flow

/-- What of a flow is handed on where each item is tried as it comes. -/
def keep (accepts : Predicate Event Value) : Flow → Flow
  | ended => ended
  | failed fault => failed fault
  | event e rest => event e (rest.keep accepts)
  | item v rest => behind (accepts v).trace <|
      match (accepts v).result with
      | .ok true => item v (rest.keep accepts)
      | .ok false => rest.keep accepts
      | .error fault => failed fault

/-- Asks for all items. -/
def run : Flow → Traced Event (List Value)
  | ended => pure []
  | failed fault => .fail fault
  | event e rest => do
    Traced.record e
    rest.run
  | item v rest => (v :: ·) <$> rest.run

/-! ## Events in front -/

theorem behind_cons (e : Event) (trace : Trace) (flow : Flow) :
    behind (e :: trace) flow = event e (behind trace flow) := rfl

theorem behind_append (front rest : Trace) (flow : Flow) :
    behind (front ++ rest) flow = behind front (behind rest flow) :=
  List.foldr_append

/-- Events in front of a flow are handed on. -/
theorem keep_behind (accepts : Predicate Event Value) (trace : Trace) (flow : Flow) :
    (behind trace flow).keep accepts = behind trace (flow.keep accepts) := by
  induction trace with
  | nil => rfl
  | cons e rest ih => rw [behind_cons, keep, ih, behind_cons]

/-- Events in front of a flow are recorded first. -/
theorem run_behind (trace : Trace) (flow : Flow) :
    (behind trace flow).run = ⟨trace ++ flow.run.trace, flow.run.result⟩ := by
  induction trace with
  | nil => rfl
  | cons e rest ih =>
    rw [behind_cons, run, Traced.bind_of_result_ok (Traced.result_record e), ih]
    rfl

/-! ## Stages in a row -/

/-- Where everything is accepted, all is handed on. -/
theorem keep_true (flow : Flow) : flow.keep (allOf []) = flow := by
  induction flow with
  | ended => rfl
  | failed fault => rfl
  | event e rest ih => rw [keep, ih]
  | item v rest ih => rw [keep, ih]; rfl

/-- Trying what comes through a first trial is trying by both, the second one where the first one
accepts. -/
theorem keep_keep (first second : Predicate Event Value) (flow : Flow) :
    (flow.keep first).keep second =
      flow.keep fun v => first v >>= fun holds => if holds then second v else pure false := by
  induction flow with
  | ended => rfl
  | failed fault => rfl
  | event e rest ih => rw [keep, keep, keep, ih]
  | item v rest ih =>
    rw [keep, keep_behind, keep]
    rcases h : (first v).result with fault | _ | _
    · -- the fault is handed on, and the second trial never takes place
      rw [Traced.bind_of_result_error h]
      rfl
    · rw [Traced.bind_of_result_ok h, ← ih]
      simp
    · rw [Traced.bind_of_result_ok h, ← ih]
      simp only [if_true, behind_append]
      rfl

/-- Asking for all items that a trial hands on is going through the list by it. -/
theorem run_keep_ofList (accepts : Predicate Event Value) (items : List Value) :
    ((ofList items).keep accepts).run = visitAll accepts pure items := by
  induction items with
  | nil => rfl
  | cons v rest ih =>
    rw [ofList, keep, run, visitAll]
    congr 1
    funext _
    rw [keep, run_behind]
    rcases h : (accepts v).result with fault | _ | _
    · rw [Traced.bind_of_result_error h]
      simp [run, Traced.fail]
    · rw [Traced.bind_of_result_ok h, ih]
      rfl
    · rw [Traced.bind_of_result_ok h]
      simp [run, ih]

end Flow

/-! ## Flows of searches -/

/-- The flow through stages on top of each other, the outermost one first, over a list. A stage
without conditions hands on what comes from below as it is; any other announces itself, and then
tries what comes. -/
def Stage.flow : List Stage → List Value → Flow
  | [], items => Flow.ofList items
  | stage :: below, items =>
    if stage.conditions.isEmpty then Stage.flow below items
    else .event (.logged (stage.logRecord "Evaluating search"))
      ((Stage.flow below items).keep stage.accepts)

namespace Search

/-- The flow of a search over a list. -/
def flow (s : Search) (items : List Value) : Flow :=
  Stage.flow s.stages items

/-- The flow of a search over the items of another one is made of the flow of that one. -/
theorem flow_narrow (inner : Search) (stage : Stage) (items : List Value) :
    (inner.narrow stage).flow items =
      if stage.conditions.isEmpty then inner.flow items
      else .event (.logged (stage.logRecord "Evaluating search"))
        ((inner.flow items).keep stage.accepts) := rfl

/-- Stages on top of each other announce themselves, and then hand on what all of them accept. -/
theorem flow_eq (s : Search) (items : List Value) :
    s.flow items =
      Flow.behind (s.announcements.map .logged) ((Flow.ofList items).keep s.accepts) := by
  rw [flow, announcements, accepts]
  induction s.stages with
  | nil => rw [Stage.flow, List.reverse_nil, List.map_nil, Flow.keep_true]; rfl
  | cons stage below ih =>
    -- the outermost stage is the last one that tries an item
    have hlast : allOf ((stage :: below).reverse.map Stage.accepts) = fun item =>
        allOf (below.reverse.map Stage.accepts) item >>= fun holds =>
          if holds then stage.accepts item else pure false := by
      funext item
      simp only [List.reverse_cons, List.map_append, List.map_cons, List.map_nil, allOf_append,
        allOf_singleton]
    rw [Stage.flow, hlast, ih, ← Flow.keep_keep, List.filter_cons]
    cases h : stage.conditions with
    | nil =>
      have haccepts : stage.accepts = allOf [] := by
        funext item
        rw [Stage.accepts, h]
        rfl
      rw [haccepts, Flow.keep_true, Flow.keep_true]
      rfl
    | cons condition conditions => rw [Flow.keep_behind]; rfl

/-- Asking for all items of a flow is iterating the search. -/
theorem run_flow (s : Search) (items : List Value) : (s.flow items).run = s.items (.ok items) := by
  rw [flow_eq, Flow.run_behind, Flow.run_keep_ofList, Search.items, traverse_ok]

end Search

end TermSearch
