import TermSearch.Proofs.Search.Evaluation

/-!
# Reads of Computations

Which properties a computation reads, of which items, and what becomes of a read that fails. A
computation makes some reads if it makes them in their order, but for those behind the first that
fails, and ends in the fault of that one or else succeeds. So the reads say at once what is seen of
the computation and how it can fail.

A computation of several parts makes the reads of its parts one after the other. With one rule for
each way to put parts together, the reads of a search come out along its definition.

## Main definitions

- `PropertyRead`: a read of one property of one item.
- `MakesReads`: the reads that a computation makes.

## Main statements

- `MakesReads.bind`, `MakesReads.anyOf`, `MakesReads.allOf`: computations of several parts.
- `Search.makesReads_accepts`: the reads by which a search tries an item.
- `MakesReads.visitAll`, `Search.makesReads_items`: the reads of a traversal.
-/

namespace TermSearch

/-! ## Reads -/

/-- A read of a property of an item. -/
structure PropertyRead where
  accessor : Accessor
  item : Value

namespace PropertyRead

/-- The fault that a read ends in, if it does. -/
def fault? (read : PropertyRead) : Option Fault :=
  Call.faultOf (read.accessor.read read.item).result

/-- Whether a read ends in a fault. -/
def fails (read : PropertyRead) : Bool :=
  read.fault?.isSome

/-- What an extractor is asked for by a read. -/
def asked (read : PropertyRead) : List (String × Value) :=
  Trace.reads (read.accessor.read read.item).trace

end PropertyRead

/-- The reads of an item, property after property. -/
def readsOf (item : Value) (accessors : List Accessor) : List PropertyRead :=
  accessors.map fun accessor => ⟨accessor, item⟩

/-! ## Reads that are made -/

/-- A computation makes reads in their order, but for those behind the first that fails. It ends in
the fault of that one, and succeeds if none fails. -/
structure MakesReads {α : Type} (x : Traced Event α) (reads : List PropertyRead) : Prop where
  trace : Trace.reads x.trace =
    (upToFirst PropertyRead.fails reads).flatMap PropertyRead.asked
  fault : Call.faultOf x.result = reads.findSome? PropertyRead.fault?

namespace MakesReads

variable {α β : Type} {x : Traced Event α} {reads more : List PropertyRead}

/-- A computation succeeds where no read fails that it makes. -/
theorem isOk_iff (h : MakesReads x reads) :
    (∃ a, x.result = .ok a) ↔ ∀ read ∈ reads, read.fault? = none := by
  rw [← Call.faultOf_eq_none_iff, h.fault, List.findSome?_eq_none_iff]

/-- A computation ends in the fault of the first read that fails. -/
theorem eq_error_iff (h : MakesReads x reads) {fault : Fault} :
    x.result = .error fault ↔ reads.findSome? PropertyRead.fault? = some fault := by
  rw [← Call.faultOf_eq_some_iff, h.fault]

/-- A computation that asks no extractor and succeeds makes no reads. -/
theorem of_isOk {a : α} (htrace : Trace.reads x.trace = []) (hresult : x.result = .ok a) :
    MakesReads x [] where
  trace := htrace
  fault := by
    rw [hresult]
    rfl

theorem pure (a : α) : MakesReads (Pure.pure a : Traced Event α) [] :=
  of_isOk rfl rfl

/-- A single property is read. -/
theorem read (accessor : Accessor) (item : Value) :
    MakesReads (accessor.read item) [⟨accessor, item⟩] where
  trace := by
    -- whether the read fails or not, it is the last
    have hone : upToFirst PropertyRead.fails [⟨accessor, item⟩] = [⟨accessor, item⟩] := by
      rw [upToFirst, upToFirst, ite_self]
    rw [hone]
    simp [PropertyRead.asked]
  fault := by
    rw [List.findSome?_singleton]
    rfl

/-- A computation makes its own reads, and then those of the one that follows, if it succeeds. -/
theorem bind {f : α → Traced Event β} (hx : MakesReads x reads)
    (hf : ∀ a, x.result = .ok a → MakesReads (f a) more) :
    MakesReads (x >>= f) (reads ++ more) := by
  cases h : x.result with
  | error fault =>
    -- a read fails, and nothing behind it is done
    have hfirst := hx.eq_error_iff.mp h
    obtain ⟨failing, hmem, hfault⟩ := List.exists_of_findSome?_eq_some hfirst
    have hstops : ∃ read ∈ reads, PropertyRead.fails read = true :=
      ⟨failing, hmem, by rw [PropertyRead.fails, hfault, Option.isSome_some]⟩
    rw [Traced.bind_of_result_error h]
    constructor
    · rw [upToFirst_append_of_stops hstops, ← hx.trace]
    · rw [List.findSome?_append, hfirst]
      rfl
  | ok a =>
    have hnone := hx.isOk_iff.mp ⟨a, h⟩
    have hgoes : ∀ read ∈ reads, PropertyRead.fails read = false := by
      intro read hmem
      rw [PropertyRead.fails, hnone read hmem, Option.isSome_none]
    have hall : upToFirst PropertyRead.fails reads = reads := by
      simpa [upToFirst] using upToFirst_append_of_not hgoes []
    have hmore := hf a h
    rw [Traced.bind_of_result_ok h]
    constructor
    · rw [Trace.reads_append, hx.trace, hmore.trace, hall, upToFirst_append_of_not hgoes,
        List.flatMap_append]
    · rw [List.findSome?_append, List.findSome?_eq_none_iff.mpr hnone, Option.none_or]
      exact hmore.fault

/-- What is made of the result makes no reads of its own. -/
theorem map (h : MakesReads x reads) (f : α → β) : MakesReads (f <$> x) reads where
  trace := by rw [Traced.trace_map, h.trace]
  fault := by
    rw [Traced.result_map, ← h.fault]
    cases x.result <;> rfl

/-- An event that is recorded in front, and is no read, makes none. -/
theorem record_bind {event : Event} {f : Unit → Traced Event β} (hevent : event.read? = none)
    (hf : MakesReads (f ()) reads) : MakesReads (Traced.record event >>= f) reads := by
  have hrecord : MakesReads (Traced.record event) [] :=
    of_isOk (by simp [Trace.reads, hevent]) (Traced.result_record event)
  exact hrecord.bind fun _ _ => hf

variable {γ : Type} {predicate : γ → Predicate Event Value} {item : Value}
  {readsFor : γ → List PropertyRead}

/-- A disjunction makes the reads of its parts up to the first that decides. -/
theorem anyOf (h : ∀ c, MakesReads (predicate c item) (readsFor c)) (l : List γ) :
    MakesReads (TermSearch.anyOf (l.map predicate) item)
      ((upToFirst (fun c => !Verdict.isNo (predicate c item).result) l).flatMap readsFor) := by
  induction l with
  | nil => exact pure false
  | cons c rest ih =>
    rw [List.map_cons, TermSearch.anyOf]
    cases hno : Verdict.isNo (predicate c item).result with
    | true =>
      rw [upToFirst_cons_of_not (by simp [hno]), List.flatMap_cons]
      refine (h c).bind fun holds hresult => ?_
      obtain rfl : holds = false := by simpa [hresult] using hno
      exact ih
    | false =>
      rw [upToFirst_cons_of_stops (by simp [hno]), List.flatMap_singleton,
        ← List.append_nil (readsFor c)]
      refine (h c).bind fun holds hresult => ?_
      obtain rfl : holds = true := by simpa [hresult] using hno
      exact pure true

/-- A conjunction makes the reads of its parts up to the first that decides. -/
theorem allOf (h : ∀ c, MakesReads (predicate c item) (readsFor c)) (l : List γ) :
    MakesReads (TermSearch.allOf (l.map predicate) item)
      ((upToFirst (fun c => !Verdict.isYes (predicate c item).result) l).flatMap readsFor) := by
  induction l with
  | nil => exact pure true
  | cons c rest ih =>
    rw [List.map_cons, TermSearch.allOf]
    cases hyes : Verdict.isYes (predicate c item).result with
    | true =>
      rw [upToFirst_cons_of_not (by simp [hyes]), List.flatMap_cons]
      refine (h c).bind fun holds hresult => ?_
      obtain rfl : holds = true := by simpa [hresult] using hyes
      exact ih
    | false =>
      rw [upToFirst_cons_of_stops (by simp [hyes]), List.flatMap_singleton,
        ← List.append_nil (readsFor c)]
      refine (h c).bind fun holds hresult => ?_
      obtain rfl : holds = false := by simpa [hresult] using hyes
      exact pure false

end MakesReads

/-! ## Reads of predicates -/

theorem readsOf_flatMap {γ : Type} (item : Value) (l : List γ) (f : γ → List Accessor) :
    readsOf item (l.flatMap f) = l.flatMap fun c => readsOf item (f c) :=
  List.map_flatMap

/-- A property is read once to be held against terms. -/
theorem makesReads_propertyMatch (check : Check) (terms : List String) (accessor : Accessor)
    (item : Value) :
    MakesReads (propertyMatch check terms accessor item) [⟨accessor, item⟩] := by
  refine (MakesReads.read accessor item).bind fun value _ => ?_
  -- holding the value against terms only compares
  rw [matchTerms_eq]
  exact MakesReads.of_isOk
    (by simp [Trace.reads, List.filterMap_map, Function.comp_def, Event.read?]) rfl

theorem Condition.makesReads_holds (condition : Condition) (accessors : List Accessor)
    (item : Value) :
    MakesReads (condition.holds accessors item)
      (readsOf item (condition.reads accessors item)) := by
  have hgroup : ∀ terms, MakesReads (someMatch condition.check accessors terms item)
      (readsOf item (condition.groupReads accessors item terms)) := by
    intro terms
    have h := MakesReads.anyOf (makesReads_propertyMatch condition.check terms · item) accessors
    simp only [propertyMatch_result] at h
    rw [readsOf, List.map_eq_flatMap]
    exact h
  have h := MakesReads.allOf hgroup condition.groups
  simp only [someMatch_result] at h
  rw [holds_eq_allOf, Condition.reads, readsOf_flatMap]
  exact h

theorem Stage.makesReads_accepts (stage : Stage) (item : Value) :
    MakesReads (stage.accepts item) (readsOf item (stage.reads item)) := by
  have h := MakesReads.allOf (fun condition : Condition =>
    condition.makesReads_holds stage.accessors item) stage.conditions
  simp only [Condition.holds_result] at h
  rw [Stage.reads, readsOf_flatMap]
  exact h

namespace Search

/-- The verdict of a search on an item: whether all stages accept it. -/
def verdict (s : Search) (item : Value) : Verdict :=
  Verdict.every (s.stages.reverse.map fun stage => stage.verdict item)

/-- The properties that a search reads to try an item: those of the stages from the innermost
outwards, up to the first that does not accept it. -/
def reads (s : Search) (item : Value) : List Accessor :=
  (upToFirst (fun stage => !Verdict.isYes (stage.verdict item)) s.stages.reverse).flatMap
    fun stage => stage.reads item

theorem accepts_result_eq_verdict (s : Search) (item : Value) :
    (s.accepts item).result = s.verdict item :=
  s.accepts_result item

theorem makesReads_accepts (s : Search) (item : Value) :
    MakesReads (s.accepts item) (readsOf item (s.reads item)) := by
  have h := MakesReads.allOf (fun stage : Stage => stage.makesReads_accepts item) s.stages.reverse
  simp only [Stage.accepts_result] at h
  rw [reads, readsOf_flatMap]
  exact h

end Search

/-! ## Reads of traversals -/

namespace MakesReads

variable {β : Type} {accepts : Predicate Event Value} {visit : Value → Traced Event β}

/-- In its turn an item is tried, and visited if it is accepted. -/
theorem turn {item : Value} {tried visited : List PropertyRead}
    (htried : MakesReads (accepts item) tried) (hvisited : MakesReads (visit item) visited) :
    MakesReads (TermSearch.turn accepts visit item)
      (tried ++ if Verdict.isYes (accepts item).result then visited else []) := by
  rw [TermSearch.turn]
  refine record_bind rfl (htried.bind fun accepted hresult => ?_)
  rw [hresult, Verdict.isYes_ok]
  cases accepted with
  | true => exact hvisited.map some
  | false => exact pure none

/-- Going through items makes the reads of their turns. -/
theorem visitAll {readsFor : Value → List PropertyRead}
    (h : ∀ item, MakesReads (TermSearch.turn accepts visit item) (readsFor item))
    (items : List Value) :
    MakesReads (TermSearch.visitAll accepts visit items) (items.flatMap readsFor) := by
  induction items with
  | nil => exact pure []
  | cons item rest ih =>
    rw [visitAll_cons, List.flatMap_cons]
    exact (h item).bind fun visited _ => ih.map _

/-- Announcing the evaluation of a search makes no reads. -/
theorem traverse {s : Search} {items : List Value} {reads : List PropertyRead}
    (h : MakesReads (TermSearch.visitAll s.accepts visit items) reads) :
    MakesReads (s.traverse visit (.ok items)) reads := by
  have hopen : MakesReads (s.openSource (.ok items)) [] :=
    of_isOk (by simp [Search.openSource, Trace.reads, List.filterMap_map, Function.comp_def,
      Event.read?]) rfl
  refine hopen.bind fun opened hresult => ?_
  obtain rfl : items = opened := Except.ok.inj hresult
  exact h

end MakesReads

/-- Iterating a search makes the reads by which it tries the items. -/
theorem Search.makesReads_items (s : Search) (items : List Value) :
    MakesReads (s.items (.ok items)) (items.flatMap fun item => readsOf item (s.reads item)) := by
  have hturn : ∀ item,
      MakesReads (turn s.accepts Pure.pure item) (readsOf item (s.reads item)) := by
    intro item
    simpa using (s.makesReads_accepts item).turn (MakesReads.pure item)
  exact (MakesReads.visitAll hturn items).traverse

end TermSearch
