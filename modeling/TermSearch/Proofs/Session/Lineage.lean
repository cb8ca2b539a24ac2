import Mathlib.Logic.Function.Basic
import TermSearch.Proofs.Ranking.Reads
import TermSearch.Session.Step

/-!
# Lineages of Searches

Where the searches of a session come from. A search is derived from another one by a call, and so it
has a lineage: the search that it began as, the calls on the way, and the source below. A chronicle
tells for every name the lineage of what the name stands for, and for every list what it contains.
It is kept along the steps of a session without evaluating any search: a step that evaluates leaves
it, a call that fails leaves it, and any other step changes it for one name or one list only.

The answers of a session are those that the chronicle gives to expect: a search is evaluated like
one that is freshly made by the calls of its lineage, over what its list contains at that time. So
it makes no difference what else was derived, when it was, and what was evaluated before.

## Main definitions

- `Lineage`: where a search comes from.
- `Chronicle`: what names stand for and what lists contain.
- `Chronicle.after`: the chronicle behind a step.
- `Chronicle.Tells`: a chronicle that is right about a session.

## Main statements

- `Chronicle.Tells.step`, `Chronicle.Tells.after`: a chronicle that is kept stays right.
- `Session.answers_by_lineage`: what a session answers behind any steps.
-/

namespace TermSearch

/-! ## Histories -/

namespace Session

/-- The session after steps. -/
def after (σ : Session) (history : List Step) : Session :=
  history.foldl (fun σ step => (σ.step step).1) σ

/-- The answer of a step behind other steps. -/
def answerBehind (σ : Session) (history : List Step) (step : Step) : Traced Event Answer :=
  ((σ.after history).step step).2

/-- The answers of a run are those of its steps, each one behind the steps before it. -/
theorem run_append_cons (σ : Session) (history : List Step) (step : Step) (later : List Step) :
    (σ.run (history ++ step :: later))[history.length]? = some (σ.answerBehind history step) := by
  induction history generalizing σ with
  | nil => rfl
  | cons first rest ih => exact ih (σ.step first).1

end Session

/-! ## Lineages -/

/-- Where a search comes from: the source below it, the search that it began as, and the calls by
which it was derived, none of which fails. -/
structure Lineage where
  origin : Nat
  root : Search
  calls : List Call
  succeeds : ∀ call ∈ calls, call.fault? = none

namespace Lineage

/-- The lineage of a search that was not derived from another one. -/
def ofRoot (origin : Nat) (root : Search) : Lineage :=
  ⟨origin, root, [], nofun⟩

/-- The lineage of what a call makes of a search. -/
def derive (lineage : Lineage) (call : Call) (h : call.fault? = none) : Lineage where
  origin := lineage.origin
  root := lineage.root
  calls := lineage.calls ++ [call]
  succeeds := List.forall_mem_append.mpr ⟨lineage.succeeds, by simpa using h⟩

/-- The search that is made afresh by the calls. -/
def fresh (lineage : Lineage) : Search :=
  ⟨lineage.root.own.after lineage.calls, lineage.root.below⟩

/-- Making the calls afresh comes to this search. -/
theorem callAll_result (lineage : Lineage) :
    (lineage.root.callAll lineage.calls).result = .ok lineage.fresh :=
  Search.callAll_result_eq_ok_iff.mpr ⟨lineage.succeeds, rfl⟩

@[simp] theorem fresh_ofRoot (origin : Nat) (root : Search) :
    (ofRoot origin root).fresh = root := by
  rw [fresh, ofRoot, Stage.after_nil]

/-- One more call makes of the search what the call makes of it. -/
theorem call_fresh (lineage : Lineage) {call : Call} (h : call.fault? = none) :
    (lineage.fresh.call call).result = .ok (lineage.derive call h).fresh := by
  rw [Search.call_result, h, fresh, fresh, derive, Stage.after_append]

end Lineage

/-! ## Chronicles -/

/-- What a name stands for. -/
inductive Meaning where
  | source (place : Nat)
  | search (lineage : Lineage)
  | ranking (lineage : Lineage)
  | cursor (cursor : Cursor)

namespace Meaning

/-- The binding of a name in a session. A search is bound as it is made afresh. -/
def binding : Meaning → Binding
  | source place => .source place
  | search lineage => .search lineage.origin lineage.fresh
  | ranking lineage => .ranking lineage.origin lineage.fresh
  | cursor c => .cursor c

/-- The meaning of a binding of which nothing more is known. -/
def ofBinding : Binding → Meaning
  | .source place => source place
  | .search origin s => search (.ofRoot origin s)
  | .ranking origin s => ranking (.ofRoot origin s)
  | .cursor c => cursor c

@[simp] theorem binding_ofBinding (binding : Binding) : (ofBinding binding).binding = binding := by
  cases binding with
  | source place => rfl
  | search origin s => exact congrArg (Binding.search origin) (Lineage.fresh_ofRoot origin s)
  | ranking origin s => exact congrArg (Binding.ranking origin) (Lineage.fresh_ofRoot origin s)
  | cursor c => rfl

end Meaning

/-- The items of a source that is a list. -/
def Source.list? : Source → Option (List Value)
  | list items => some items
  | _ => none

/-- What the names stand for, and what the sources contain that are lists. -/
structure Chronicle where
  meaning : String → Option Meaning
  contents : List (Option (List Value))

/-- Whether a step goes through a search one item at a time. -/
def Step.usesCursor : Step → Bool
  | iterate _ _ | next _ => true
  | _ => false

/-- The name that a step may bind. -/
def Step.binds? : Step → Option String
  | makeSource name _ | search name _ _ _ _ | request name _ _ | call name _ _ | rank name _
  | iterate name _ | next name => some name
  | _ => none

namespace Chronicle

/-- A chronicle that begins with a session. -/
def ofSession (σ : Session) : Chronicle :=
  ⟨fun name => (σ.names.get? name).map Meaning.ofBinding, σ.sources.map Source.list?⟩

/-- A name stands for something new. -/
def bind (told : Chronicle) (name : String) (meaning : Meaning) : Chronicle :=
  { told with meaning := Function.update told.meaning name (some meaning) }

@[simp] theorem meaning_bind_self (told : Chronicle) (name : String) (meaning : Meaning) :
    (told.bind name meaning).meaning name = some meaning :=
  Function.update_self ..

theorem meaning_bind_of_ne {name other : String} (h : other ≠ name) (told : Chronicle)
    (meaning : Meaning) : (told.bind name meaning).meaning other = told.meaning other :=
  Function.update_of_ne h ..

/-- What a list contains is changed. -/
def change (told : Chronicle) (source : String) (f : List Value → List Value) : Chronicle :=
  match told.meaning source with
  | some (.source place) => { told with contents := told.contents.modify place (Option.map f) }
  | _ => told

/-- What a new search over the source or the search of a name begins as, with the place of the
source below. -/
def base? (told : Chronicle) (name : String) : Option (Nat × (Stage → Search)) :=
  match told.meaning name with
  | some (.source place) => some (place, Search.start)
  | some (.search lineage) => some (lineage.origin, lineage.fresh.narrow)
  | _ => none

/-- A search begins over the source or the search of a name, if it could be made. -/
def begin (told : Chronicle) (name source : String)
    (make : (Stage → Search) → Traced Event Search) : Chronicle :=
  match told.base? source with
  | some (origin, starting) =>
    match (make starting).result with
    | .ok root => told.bind name (.search (.ofRoot origin root))
    | .error _ => told
  | none => told

/-- The chronicle behind a step that uses no cursor. -/
def after (told : Chronicle) : Step → Chronicle
  | .makeSource name source =>
    ({ told with contents := told.contents ++ [source.list?] }).bind name
      (.source told.contents.length)
  | .append source items => told.change source (· ++ items)
  | .remove source index => told.change source (·.eraseIdx index)
  | .setField source index field value =>
    told.change source (·.modify index (Value.setField field value))
  | .search name source selectors comparison placement =>
    match selectors with
    | .ok selectors => told.begin name source fun starting =>
      .ofExcept ((Stage.ofSelectors selectors
        (comparison.getD (.text Comparison.standard.label))
        (placement.getD (.text Text.Placement.standard.label))).map starting)
    | .error _ => told
  | .request name source data =>
    match Request.ofValue data with
    | .ok request => told.begin name source request.apply
    | .error _ => told
  | .call name target call =>
    match told.meaning target with
    | some (.search lineage) =>
      if h : call.fault? = none then told.bind name (.search (lineage.derive call h)) else told
    | _ => told
  | .rank name target =>
    match told.meaning target with
    | some (.search lineage) => told.bind name (.ranking lineage)
    | _ => told
  | .show _ | .list _ | .order _ | .hits _ _ | .test _ _ => told
  | .iterate _ _ | .next _ => told

/-- The chronicle behind steps that use no cursor. -/
def afterAll (told : Chronicle) (history : List Step) : Chronicle :=
  history.foldl after told

/-- Changing what a list contains leaves the names. -/
@[simp] theorem meaning_change (told : Chronicle) (source : String)
    (f : List Value → List Value) : (told.change source f).meaning = told.meaning := by
  rw [change]
  split <;> rfl

/-- Where a search begins, other names keep their meanings. -/
theorem meaning_begin_of_ne {name other : String} (h : other ≠ name) (told : Chronicle)
    (source : String) (make : (Stage → Search) → Traced Event Search) :
    (told.begin name source make).meaning other = told.meaning other := by
  unfold begin
  split
  · split
    · exact meaning_bind_of_ne h told _
    · rfl
  · rfl

/-- A name keeps its meaning in a step that does not bind it. -/
theorem meaning_after_of_ne {told : Chronicle} {step : Step} {name : String}
    (h : step.binds? ≠ some name) : (told.after step).meaning name = told.meaning name := by
  have hne : ∀ {other : String}, some other ≠ some name → name ≠ other :=
    fun hother heq => hother (congrArg some heq.symm)
  cases step with
  | makeSource other source => exact meaning_bind_of_ne (hne h) _ _
  | append source items => rw [after, meaning_change]
  | remove source index => rw [after, meaning_change]
  | setField source index field value => rw [after, meaning_change]
  | search other source selectors comparison placement =>
    cases selectors with
    | error cause => rfl
    | ok selectors => exact meaning_begin_of_ne (hne h) told source _
  | request other source data =>
    rw [after]
    split
    · exact meaning_begin_of_ne (hne h) told source _
    · rfl
  | call other target call =>
    rw [after]
    split
    · split
      · exact meaning_bind_of_ne (hne h) told _
      · rfl
    · rfl
  | rank other target =>
    rw [after]
    split
    · exact meaning_bind_of_ne (hne h) told _
    · rfl
  | _ => rfl

/-- A name keeps its meaning along steps that do not bind it. -/
theorem meaning_afterAll {told : Chronicle} {history : List Step} {name : String}
    (h : ∀ step ∈ history, step.binds? ≠ some name) :
    (told.afterAll history).meaning name = told.meaning name := by
  induction history generalizing told with
  | nil => rfl
  | cons step rest ih =>
    rw [List.forall_mem_cons] at h
    exact (ih h.2).trans (meaning_after_of_ne h.1)

/-! ## Right chronicles -/

/-- A chronicle is right about a session: about what is bound to each name, and about the lists. -/
structure Tells (told : Chronicle) (σ : Session) : Prop where
  names : ∀ name, σ.names.get? name = (told.meaning name).map Meaning.binding
  sources : σ.sources.map Source.list? = told.contents

namespace Tells

variable {told : Chronicle} {σ : Session}

theorem ofSession (σ : Session) : (Chronicle.ofSession σ).Tells σ where
  names name := by
    cases h : σ.names.get? name <;> simp [Chronicle.ofSession, h]
  sources := rfl

theorem bind (h : told.Tells σ) (name : String) (meaning : Meaning) :
    (told.bind name meaning).Tells (σ.bind name meaning.binding) where
  names other := by
    by_cases hother : other = name
    · subst hother
      rw [Session.bind, Fields.get?_put_self, meaning_bind_self, Option.map_some]
    · rw [Session.bind, Fields.get?_put_of_ne _ _ hother, meaning_bind_of_ne hother]
      exact h.names other
  sources := h.sources

/-! ### What the session finds -/

theorem sourceOf_eq (h : told.Tells σ) (name : String) :
    σ.sourceOf name =
      match told.meaning name with
      | some (.source place) => .ok place
      | _ => .error (.unboundName name) := by
  rw [Session.sourceOf, h.names]
  rcases told.meaning name with _ | _ | _ | _ | _ <;> rfl

theorem searchOf_eq (h : told.Tells σ) (name : String) :
    σ.searchOf name =
      match told.meaning name with
      | some (.search lineage) => .ok (lineage.origin, lineage.fresh)
      | _ => .error (.unboundName name) := by
  rw [Session.searchOf, h.names]
  rcases told.meaning name with _ | _ | _ | _ | _ <;> rfl

theorem baseOf_eq (h : told.Tells σ) (name : String) :
    σ.baseOf name =
      match told.base? name with
      | some base => .ok base
      | none => .error (.unboundName name) := by
  rw [Session.baseOf, base?, h.names]
  rcases told.meaning name with _ | _ | _ | _ | _ <;> rfl

/-! ### Steps -/

/-- Changing one entry of a list changes one entry of its image. -/
private theorem map_modify {α β : Type} {f : α → α} {g : β → β} {image : α → β} {l : List α}
    {i : Nat} (h : ∀ a, l[i]? = some a → image (f a) = g (image a)) :
    (l.modify i f).map image = (l.map image).modify i g := by
  -- entry by entry, since only the one at `i` is changed on either side
  apply List.ext_getElem?
  intro j
  rw [List.getElem?_map, List.getElem?_modify, List.getElem?_modify, List.getElem?_map]
  by_cases hj : i = j
  · subst hj
    cases hl : l[i]? with
    | none => rfl
    | some a => simp [h a hl]
  · simp [hj]

/-- A new source is the last one. -/
theorem makeSource (h : told.Tells σ) (name : String) (source : Source) :
    (told.after (.makeSource name source)).Tells (σ.step (.makeSource name source)).1 := by
  have hlength : σ.sources.length = told.contents.length := by
    rw [← h.sources, List.length_map]
  have hmade : ({ told with contents := told.contents ++ [source.list?] } : Chronicle).Tells
      { σ with sources := σ.sources ++ [source] } :=
    ⟨h.names, by rw [List.map_append, h.sources]; rfl⟩
  rw [Chronicle.after, ← hlength]
  exact hmade.bind name (.source σ.sources.length)

/-- Changing the items of a list changes what it contains. -/
theorem changeItems (h : told.Tells σ) (name : String) (change : List Value → List Value)
    (reply : List Value → Answer) :
    (told.change name change).Tells (σ.changeItems name change reply).1 := by
  rw [Session.changeItems, h.sourceOf_eq, Chronicle.change]
  rcases told.meaning name with _ | place | _ | _ | _
  case some.source =>
    refine ⟨h.names, ?_⟩
    rw [← h.sources]
    refine map_modify fun source hsource => ?_
    have hitems : σ.itemsAt place = source.items := by rw [Session.itemsAt, hsource]
    -- a list is changed from what it contains, and the other sources have no contents
    rw [hitems]
    cases source <;> rfl
  all_goals exact h

/-- Going through a source takes nothing from a list. -/
theorem evaluate (h : told.Tells σ) (place : Nat)
    (run : Except Fault (List Value) → Traced Event Answer) :
    told.Tells (σ.evaluate place run).1 where
  names := h.names
  sources := by
    have htake : ∀ (source : Source) (count : Nat) (atEnd : Bool),
        (source.take count atEnd).list? = id source.list? := by
      intro source count atEnd
      cases source <;> rfl
    rw [← h.sources, ← List.modify_id place (σ.sources.map Source.list?)]
    exact map_modify fun source _ => htake source _ _

/-- A search over what a name stands for begins a lineage. -/
theorem bindSearch (h : told.Tells σ) (name source : String)
    (make : (Stage → Search) → Traced Event Search) :
    (told.begin name source make).Tells
      (match σ.baseOf source with
        | .error cause => σ.fault cause
        | .ok (origin, starting) => σ.bindSearch name origin (make starting)).1 := by
  rw [h.baseOf_eq, Chronicle.begin]
  rcases told.base? source with _ | ⟨origin, starting⟩
  · exact h
  · simp only [Session.bindSearch]
    cases (make starting).result with
    | error fault => exact h
    | ok root =>
      have hbind := h.bind name (.search (.ofRoot origin root))
      rw [Meaning.binding, Lineage.fresh_ofRoot] at hbind
      exact hbind

/-- A call derives a search, if it does not fail. -/
theorem makeCall (h : told.Tells σ) (name target : String) (call : Call) :
    (told.after (.call name target call)).Tells (σ.makeCall name target call).1 := by
  rw [Session.makeCall, h.searchOf_eq, Chronicle.after]
  rcases told.meaning target with _ | _ | lineage | _ | _
  case some.search =>
    -- the call is made on the search that the lineage makes afresh
    by_cases hfault : call.fault? = none
    · have hcall := lineage.call_fresh hfault
      simp only [dif_pos hfault, Session.bindSearch, hcall]
      exact h.bind name (.search (lineage.derive call hfault))
    · obtain ⟨fault, hfault'⟩ := Option.ne_none_iff_exists'.mp hfault
      have hcall := lineage.fresh.call_result call
      rw [hfault'] at hcall
      simp only [dif_neg hfault, Session.bindSearch, hcall]
      exact h
  all_goals exact h

/-- A ranking has the lineage of its search. -/
theorem makeRanking (h : told.Tells σ) (name target : String) :
    (told.after (.rank name target)).Tells (σ.makeRanking name target).1 := by
  rw [Session.makeRanking, h.searchOf_eq, Chronicle.after]
  rcases told.meaning target with _ | _ | lineage | _ | _
  case some.search => exact h.bind name (.ranking lineage)
  all_goals exact h

/-- A chronicle that is kept along a step that uses no cursor stays right. -/
theorem step (h : told.Tells σ) {step : Step} (hstep : step.usesCursor = false) :
    (told.after step).Tells (σ.step step).1 := by
  cases step with
  | makeSource name source => exact h.makeSource name source
  | append source items => exact h.changeItems source _ _
  | remove source index => exact h.changeItems source _ _
  | setField source index field value => exact h.changeItems source _ _
  | search name source selectors comparison placement =>
    cases selectors with
    | error cause => exact h
    | ok selectors => exact h.bindSearch name source _
  | request name source data =>
    show (told.after (.request name source data)).Tells (σ.makeRequest name source data).1
    rw [Session.makeRequest, Chronicle.after]
    cases Request.ofValue data with
    | error issues => exact h
    | ok request => exact h.bindSearch name source _
  | call name target call => exact h.makeCall name target call
  | rank name target => exact h.makeRanking name target
  | «show» target =>
    have hshow : (σ.showTarget target).1 = σ := by
      rw [Session.showTarget]
      split <;> rfl
    exact hshow.symm ▸ h
  | list target =>
    show told.Tells (σ.listTarget target).1
    rw [Session.listTarget]
    split
    · exact h.evaluate _ _
    · exact h.evaluate _ _
    · exact h
  | order target =>
    show told.Tells (σ.orderTarget target).1
    rw [Session.orderTarget]
    split
    · exact h
    · exact h.evaluate _ _
  | hits target item =>
    have hcount : (σ.countTarget target item).1 = σ := by
      rw [Session.countTarget]
      split <;> rfl
    exact hcount.symm ▸ h
  | test target item =>
    have htest : (σ.testTarget target item).1 = σ := by
      rw [Session.testTarget]
      split <;> rfl
    exact htest.symm ▸ h
  | iterate name target => exact nomatch hstep
  | next target => exact nomatch hstep

/-- A chronicle that is kept along steps that use no cursor stays right. -/
theorem after {history : List Step} (h : told.Tells σ)
    (hsteps : ∀ step ∈ history, step.usesCursor = false) :
    (told.afterAll history).Tells (σ.after history) := by
  -- along the history, with the chronicle and the session behind each step
  induction history generalizing told σ with
  | nil => exact h
  | cons step rest ih =>
    rw [List.forall_mem_cons] at hsteps
    exact ih (h.step hsteps.1) hsteps.2

end Tells

end Chronicle

/-! ## Answers -/

namespace Chronicle.Tells

variable {told : Chronicle} {σ : Session} {name : String} {lineage : Lineage} {items : List Value}

/-- A list is gone through from its beginning, with what it contains. -/
theorem remaining_eq (h : told.Tells σ) {place : Nat}
    (hitems : told.contents[place]? = some (some items)) : σ.remaining place 0 = .ok items := by
  rw [← h.sources, List.getElem?_map] at hitems
  rw [Session.remaining]
  cases hsource : σ.sources[place]? with
  | none => simp [hsource] at hitems
  | some source =>
    cases source with
    | list found =>
      obtain rfl : found = items := by simpa [hsource, Source.list?] using hitems
      rfl
    | _ => simp [hsource, Source.list?] at hitems

/-- A search is gone through like one that is made afresh. -/
theorem list_search (h : told.Tells σ) (hname : told.meaning name = some (.search lineage))
    (hitems : told.contents[lineage.origin]? = some (some items)) :
    (σ.step (.list name)).2 =
      (fun l => .found (l.map .plain)) <$> lineage.fresh.items (.ok items) := by
  have hbound := h.names name
  rw [hname, Option.map_some, Meaning.binding] at hbound
  -- the list is at its beginning, whatever went through it before
  simp only [Session.step, Session.listTarget, hbound, Session.evaluate, h.remaining_eq hitems]

section

variable (h : told.Tells σ) (hname : told.meaning name = some (.ranking lineage))
include h hname

/-- A ranking is gone through like one of a search that is made afresh. -/
theorem list_ranking (hitems : told.contents[lineage.origin]? = some (some items)) :
    (σ.step (.list name)).2 =
      (fun l => .found (l.map .ranked)) <$> lineage.fresh.ranked (.ok items) := by
  have hbound := h.names name
  rw [hname, Option.map_some, Meaning.binding] at hbound
  simp only [Session.step, Session.listTarget, hbound, Session.evaluate, h.remaining_eq hitems]

private theorem rankingOf_eq : σ.rankingOf name = .ok (lineage.origin, lineage.fresh) := by
  rw [Session.rankingOf, h.names, hname]
  rfl

theorem order_ranking (hitems : told.contents[lineage.origin]? = some (some items)) :
    (σ.step (.order name)).2 =
      (fun l => .found (l.map .ranked)) <$> lineage.fresh.rankedByHits (.ok items) := by
  simp only [Session.step, Session.orderTarget, rankingOf_eq h hname, Session.evaluate,
    h.remaining_eq hitems]

theorem hits_ranking (item : Value) :
    (σ.step (.hits name item)).2 = Answer.hits <$> lineage.fresh.countHits item := by
  simp only [Session.step, Session.countTarget, rankingOf_eq h hname]

end

end Chronicle.Tells

/-- The chronicle of a session behind steps that use no cursor. -/
def Session.chronicle (σ : Session) (history : List Step) : Chronicle :=
  (Chronicle.ofSession σ).afterAll history

/-- Whatever steps follow that do not bind its name anew, a search or a ranking over a list is
evaluated like the one of the search that is made afresh by the calls of its lineage, over what the
list contains by then, with the same items, hits, events and faults. Behind items that are appended,
a search yields what it yielded before, and then those of these items that it accepts. -/
theorem Session.answers_by_lineage {σ : Session} {history between : List Step} {name : String}
    {lineage : Lineage} {items : List Value}
    (hsteps : ∀ step ∈ history ++ between, step.usesCursor = false)
    (hbetween : ∀ step ∈ between, step.binds? ≠ some name)
    (hitems : (σ.chronicle (history ++ between)).contents[lineage.origin]? = some (some items)) :
    (lineage.root.callAll lineage.calls).result = .ok lineage.fresh ∧
    ((σ.chronicle history).meaning name = some (.search lineage) →
      σ.answerBehind (history ++ between) (.list name) =
        (fun l => .found (l.map .plain)) <$> lineage.fresh.items (.ok items) ∧
      ∀ source more yielded,
        (σ.chronicle (history ++ between)).meaning source = some (.source lineage.origin) →
        (lineage.fresh.items (.ok items)).result = .ok yielded →
        (∀ item ∈ more, (lineage.fresh.accepts item).result.isOk = true) →
        (σ.answerBehind (history ++ between ++ [.append source more]) (.list name)).result =
          .ok (.found ((yielded ++ more.filter fun item =>
            Verdict.isYes (lineage.fresh.accepts item).result).map .plain))) ∧
    ((σ.chronicle history).meaning name = some (.ranking lineage) →
      σ.answerBehind (history ++ between) (.list name) =
        (fun l => .found (l.map .ranked)) <$> lineage.fresh.ranked (.ok items) ∧
      σ.answerBehind (history ++ between) (.order name) =
        (fun l => .found (l.map .ranked)) <$> lineage.fresh.rankedByHits (.ok items) ∧
      ∀ item, σ.answerBehind (history ++ between) (.hits name item) =
        Answer.hits <$> lineage.fresh.countHits item) := by
  have htells : (σ.chronicle (history ++ between)).Tells (σ.after (history ++ between)) :=
    (Chronicle.Tells.ofSession σ).after hsteps
  have hkept : (σ.chronicle (history ++ between)).meaning name =
      (σ.chronicle history).meaning name := by
    rw [chronicle, Chronicle.afterAll, List.foldl_append]
    exact Chronicle.meaning_afterAll hbetween
  rw [← hkept]
  refine ⟨lineage.callAll_result, fun hname => ⟨htells.list_search hname hitems, ?_⟩, fun hname =>
    ⟨htells.list_ranking hname hitems, htells.order_ranking hname hitems,
      htells.hits_ranking hname⟩⟩
  intro source more yielded hsource hyielded hmore
  -- appending changes what the list contains, and not what the name stands for
  have happend := htells.changeItems source (· ++ more) fun items => .length items.length
  rw [Chronicle.change, hsource] at happend
  have hlonger : ((σ.chronicle (history ++ between)).contents.modify lineage.origin
      (Option.map (· ++ more)))[lineage.origin]? = some (some (items ++ more)) := by
    rw [List.getElem?_modify, hitems]
    simp
  have hanswer := happend.list_search hname hlonger
  rw [answerBehind, after, List.foldl_append]
  refine (congrArg Traced.result hanswer).trans ?_
  rw [Traced.result_map, Search.items_result_append hyielded hmore]
  rfl

/-- A search is derived, another call on the same search fails, the search is gone through, and the
list becomes longer. -/
theorem Session.answers_by_lineage_of_london :
    ∃ lineage : Lineage,
      lineage.calls = [.filter .containing [.text "Lon"]] ∧
      (⟨[.list [.map [("city", .text "London")]]], [("places", .source 0),
          ("all", .search 0 (Search.start ⟨[.named "city"], ⟨.ordinal, false⟩, .anywhere, []⟩))]⟩ :
        Session).answerBehind
          [.call "some" "all" (.filter .containing [.text "Lon"]),
            .call "none" "all" (.filter .containing [.text " "]), .list "some",
            .append "places" [.map [("city", .text "Paris")]]] (.list "some") =
        (fun l => .found (l.map .plain)) <$> lineage.fresh.items
          (.ok [.map [("city", .text "London")], .map [("city", .text "Paris")]]) := by
  have hfault : (Call.filter .containing [.text "Lon"]).fault? = none :=
    Call.fault?_filter_singleton (by decide +kernel) .containing
  have h := @answers_by_lineage
    ⟨[.list [.map [("city", .text "London")]]], [("places", .source 0),
      ("all", .search 0 (Search.start ⟨[.named "city"], ⟨.ordinal, false⟩, .anywhere, []⟩))]⟩
    [.call "some" "all" (.filter .containing [.text "Lon"])]
    [.call "none" "all" (.filter .containing [.text " "]), .list "some",
      .append "places" [.map [("city", .text "Paris")]]] "some"
    ((Lineage.ofRoot 0 (Search.start ⟨[.named "city"], ⟨.ordinal, false⟩, .anywhere, []⟩)).derive _
      hfault)
    [.map [("city", .text "London")], .map [("city", .text "Paris")]]
    (by decide) (by decide) rfl
  exact ⟨_, rfl, (h.2.1 (by rfl)).1⟩

end TermSearch
