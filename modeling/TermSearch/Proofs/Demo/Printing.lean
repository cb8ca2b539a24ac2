import TermSearch.Demo
import TermSearch.Proofs.Ranking.Order
import TermSearch.Proofs.Request
import TermSearch.Proofs.Search.Records

/-!
# What Is Printed

Computations that succeed and print lines, one after the other. Building a search and ranking its
items prints nothing. Where no item is tried to a fault, going through a search prints a line for
each item that it accepts, in the order of the source.

## Main definitions

- `Prints`: a computation succeeds with a result, and prints lines.

## Main statements

- `Prints.bind`: computations in a row.
- `Prints.printEach`, `Prints.rankedByHits`: searches and rankings.
-/

namespace TermSearch

open Text (Placement)

/-- A computation succeeds with a result, and prints lines on the way. -/
structure Prints {α : Type} (x : Traced Event α) (a : α) (lines : List String) : Prop where
  result : x.result = .ok a
  lines : Trace.lines x.trace = lines

namespace Prints

variable {α β : Type} {x : Traced Event α} {a : α} {lines more : List String}

theorem pure (a : α) : Prints (Pure.pure a : Traced Event α) a [] :=
  ⟨rfl, rfl⟩

/-- A quiet computation prints nothing. -/
theorem of_isQuiet (hresult : x.result = .ok a) (hquiet : Trace.IsQuiet x.trace) : Prints x a [] :=
  ⟨hresult, hquiet.lines⟩

/-- Two computations in a row print their lines one after the other. -/
theorem bind {f : α → Traced Event β} {b : β} (hx : Prints x a lines) (hf : Prints (f a) b more) :
    Prints (x >>= f) b (lines ++ more) := by
  rw [Traced.bind_of_result_ok hx.result]
  exact ⟨hf.result, by rw [Trace.lines_append, hx.lines, hf.lines]⟩

/-- A computation that prints nothing, and another one. -/
theorem quietly_bind {f : α → Traced Event β} {b : β} (hx : Prints x a [])
    (hf : Prints (f a) b lines) : Prints (x >>= f) b lines :=
  hx.bind hf

theorem print (line : String) : Prints (Demo.print line) () [line] :=
  ⟨rfl, rfl⟩

/-- Log records are not printed. -/
theorem lines_logged (records : List LogRecord) : Trace.lines (records.map .logged) = [] := by
  rw [Trace.lines, List.filterMap_map, List.filterMap_eq_nil_iff]
  exact fun _ _ => rfl

/-! ### Building searches -/

/-- An empty line and a title stand above a section. -/
theorem heading (title : String) : Prints (Demo.heading title) () ["", title] :=
  (print "").bind (print title)

theorem stageOver {names : List String} (hne : names ≠ [])
    (hblank : ∀ name ∈ names, Text.isBlank name = false) :
    Prints (Demo.stageOver names)
      ⟨names.map .named, Comparison.standard, Placement.standard, []⟩ [] :=
  ⟨Stage.ofSelectors_names hne hblank (Comparison.ofValue_label _) (Placement.ofValue_label _), rfl⟩

theorem filter {s : Search} {operation : Operation} {terms : List Value} {kept : List String}
    (h : Terms.validate operation.keepsBlank (.list terms) = .ok kept) :
    Prints (s.filter operation terms) (s.addCondition (s.condition operation kept)) [] := by
  rw [Search.filter_of_validate h]
  exact ⟨rfl, rfl⟩

/-- Setting the comparison or the placement prints nothing. -/
theorem setComparison (s : Search) (comparison : Comparison) :
    Prints (s.call (.setComparison (.text comparison.label))) (s.withComparison comparison) [] := by
  rw [Search.call, Comparison.ofValue_label]
  exact ⟨rfl, rfl⟩

theorem setPlacement (s : Search) (placement : Placement) :
    Prints (s.call (.setPlacement (.text placement.label))) (s.withPlacement placement) [] := by
  rw [Search.call, Placement.ofValue_label]
  exact ⟨rfl, rfl⟩

/-- A chain of calls is built call by call. -/
theorem callAll_cons {s next t : Search} {call : Call} {calls : List Call}
    (hcall : Prints (s.call call) next []) (hcalls : Prints (next.callAll calls) t []) :
    Prints (s.callAll (call :: calls)) t [] :=
  hcall.quietly_bind hcalls

/-- A chain that ends in a condition takes it up. -/
theorem callAll_filter {s : Search} {operation : Operation} {terms : List Value}
    {kept : List String} (h : Terms.validate operation.keepsBlank (.list terms) = .ok kept) :
    Prints (s.callAll [.filter operation terms]) (s.addCondition (s.condition operation kept)) [] :=
  (filter h).quietly_bind (pure _)

/-- Applying a request begins a search and takes up its condition. -/
theorem apply {request : Request} {kept : List String} (hne : request.properties ≠ [])
    (hblank : ∀ name ∈ request.properties, Text.isBlank name = false)
    (h : Terms.validate request.operation.keepsBlank (.list (request.terms.map .text)) = .ok kept)
    (starting : Stage → Search) :
    Prints (request.apply starting)
      ((starting request.stage).addCondition
        ((starting request.stage).condition request.operation kept)) [] := by
  have hstage : Prints (Traced.ofExcept (Stage.ofSelectors (request.properties.map .named)
      (.text request.comparison.label) (.text request.placement.label))) request.stage [] :=
    ⟨Stage.ofSelectors_names hne hblank (Comparison.ofValue_label _) (Placement.ofValue_label _),
      rfl⟩
  have hlogged : Prints (Traced.record (.logged request.logRecord)) () [] := ⟨rfl, rfl⟩
  exact hstage.quietly_bind (hlogged.quietly_bind (filter h))

/-! ### Going through searches -/

section

variable {s : Search} {items : List Value}

/-- Going through items prints a line for each one that is accepted. -/
theorem visitAll {accepts : Predicate Event Value} (line : Value → String)
    (hquiet : ∀ item, Trace.IsQuiet (accepts item).trace)
    (hok : ∀ item ∈ items, (accepts item).result.isOk = true) :
    ∃ visits, Prints (TermSearch.visitAll accepts (fun item => Demo.print (line item)) items) visits
      ((items.filter fun item => Verdict.isYes (accepts item).result).map line) := by
  induction items with
  | nil => exact ⟨[], pure []⟩
  | cons item rest ih =>
    rw [List.forall_mem_cons] at hok
    obtain ⟨visits, hrest⟩ := ih hok.2
    have hpulled : Prints (Traced.record (.pulled item)) () [] := ⟨rfl, rfl⟩
    rcases haccepts : (accepts item).result with fault | _ | _
    · rw [haccepts] at hok
      exact nomatch hok.1
    · -- the item is passed over
      refine ⟨visits, hpulled.quietly_bind ((of_isQuiet haccepts (hquiet item)).quietly_bind ?_)⟩
      rw [List.filter_cons, haccepts]
      exact hrest
    · refine ⟨() :: visits,
        hpulled.quietly_bind ((of_isQuiet haccepts (hquiet item)).quietly_bind ?_)⟩
      rw [List.filter_cons, haccepts, Verdict.isYes_ok, if_pos rfl, if_pos rfl, List.map_cons,
        ← List.append_nil (List.map line _)]
      exact (print (line item)).bind (hrest.bind (pure _))

/-- A search prints a line for each item that it accepts. -/
theorem printEach (line : Value → String)
    (hok : ∀ item ∈ items, (s.accepts item).result.isOk = true) :
    Prints (Demo.printEach s items line) ()
      ((items.filter fun item => Verdict.isYes (s.accepts item).result).map fun item =>
        "   " ++ line item) := by
  obtain ⟨visits, hvisits⟩ := visitAll (fun item => "   " ++ line item) s.isQuiet_accepts hok
  have htraverse : Prints (s.traverse (fun item => Demo.print ("   " ++ line item)) (.ok items))
      visits ((items.filter fun item => Verdict.isYes (s.accepts item).result).map fun item =>
        "   " ++ line item) := by
    rw [Search.traverse_ok]
    exact ⟨hvisits.result, by rw [Trace.lines_append, lines_logged, hvisits.lines, List.nil_append]⟩
  rw [Demo.printEach, ← List.append_nil (List.map _ _)]
  exact htraverse.bind (pure ())

/-- Ranking prints nothing, and puts the accepted items in order by their hits. -/
theorem rankedByHits (hok : ∀ item ∈ items, (s.accepts item).result.isOk = true)
    (hread : ∀ item ∈ items, s.own.Readable item) :
    Prints (s.rankedByHits (.ok items))
      (Search.orderByHits
        ((items.filter fun item => Verdict.isYes (s.accepts item).result).map fun item =>
          ⟨s.own.hitsOf item, item⟩)) [] := by
  have hranked := Search.ranked_of_readable hread
  rw [Search.items_result_of_isOk hok] at hranked
  obtain ⟨horder, -⟩ := s.rankedByHits_eq (.ok items)
  rw [hranked] at horder
  obtain ⟨rest, htrace, hquiet⟩ := s.ranked_trace (.ok items)
  refine ⟨horder, ?_⟩
  rw [Search.rankedByHits_trace, horder, htrace, Trace.lines_append, Trace.lines_append,
    lines_logged, hquiet.lines]
  rfl

end

/-- Lines are printed one after the other. -/
theorem forM (line : α → String) (l : List α) :
    Prints (l.forM fun a => Demo.print (line a)) () (l.map line) := by
  induction l with
  | nil => exact pure ()
  | cons a rest ih => exact (print (line a)).bind ih

end Prints

end TermSearch
