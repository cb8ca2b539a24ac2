import TermSearch.Proofs.Request
import TermSearch.Proofs.Session.Lineage

/-!
# Journals of Sessions

A journal tells of every name of a session whether it stands for a source, a search, a ranking or a
cursor, and of every search how it came about: level by level, what it began as and which calls were
made on it since. It is kept along the steps without a look at the items of the sources, and without
evaluating any search.

## Main definitions

- `Level`, `Nesting`: how a search came about.
- `Journal`, `Journal.after`: what names stand for, and how steps change it.
- `Journal.Follows`: a journal that is right about a session over lists.
- `Journal.Tells`: what is bound to one name, and what the journal tells of it.

## Main statements

- `Journal.Follows.step`, `Journal.Follows.after`: a journal that is kept stays right.
-/

namespace TermSearch

open Text (Placement)

/-! ## Levels of nesting -/

/-- One level of a search: the properties and the settings that it began with, and the calls that
were made since. -/
structure Level where
  accessors : List Accessor
  comparison : Comparison
  placement : Placement
  calls : List Call

namespace Level

/-- The level of a search that was just begun. -/
def ofStage (stage : Stage) : Level :=
  ⟨stage.accessors, stage.comparison, stage.placement, []⟩

/-- The level with one more call. -/
def after (level : Level) (call : Call) : Level :=
  { level with calls := level.calls ++ [call] }

/-- The stage that the calls make. -/
def stage (level : Level) : Stage :=
  Stage.after ⟨level.accessors, level.comparison, level.placement, []⟩ level.calls

theorem stage_ofStage {stage : Stage} (h : stage.conditions = []) :
    (ofStage stage).stage = stage := by
  obtain ⟨accessors, comparison, placement, conditions⟩ := stage
  obtain rfl : conditions = [] := h
  exact Stage.after_nil _

theorem stage_after (level : Level) (call : Call) :
    (level.after call).stage = level.stage.after [call] :=
  Stage.after_append _ _ _

end Level

/-- How a search came about: its own level, and the levels of the searches that it goes through,
the nearest one first. -/
structure Nesting where
  own : Level
  below : List Level

namespace Nesting

/-- The levels, from the outermost to the innermost. -/
def levels (nesting : Nesting) : List Level :=
  nesting.own :: nesting.below

/-- The search that came about. -/
def search (nesting : Nesting) : Search :=
  ⟨nesting.own.stage, nesting.below.map Level.stage⟩

/-- The nesting with one more call on the outermost level. -/
def after (nesting : Nesting) (call : Call) : Nesting :=
  { nesting with own := nesting.own.after call }

end Nesting

/-! ## Journals -/

/-- What a name stands for, with something known of each search. -/
inductive Role (α : Type) where
  | source
  | search (a : α)
  | ranking (a : α)
  /-- A cursor, and whether it was moved already. -/
  | cursor (a : α) (opened : Bool)

/-- What is known of the searches is replaced. -/
def Role.map {α β : Type} (f : α → β) : Role α → Role β
  | source => source
  | search a => search (f a)
  | ranking a => ranking (f a)
  | cursor a opened => cursor (f a) opened

/-- What a binding stands for. -/
def Binding.role : Binding → Role Search
  | source _ => .source
  | search _ s => .search s
  | ranking _ s => .ranking s
  | cursor c => .cursor c.search (c.progress != .unopened)

/-- What the names stand for, and how the searches came about. -/
abbrev Journal := String → Option (Role Nesting)

namespace Journal

/-- The journal in which nothing is told yet. -/
def empty : Journal := fun _ => none

/-- A name stands for something new. -/
def bind (journal : Journal) (name : String) (role : Role Nesting) : Journal :=
  Function.update journal name (some role)

/-- A name stands for a search, if one was made. -/
def bindSearch (journal : Journal) (name : String) (made : Option Nesting) : Journal :=
  match made with
  | some nesting => journal.bind name (.search nesting)
  | none => journal

/-- The levels below a new search over what a name stands for. -/
def base? (journal : Journal) (name : String) : Option (List Level) :=
  match journal name with
  | some .source => some []
  | some (.search inner) => some inner.levels
  | _ => none

/-- The search of a name. -/
def search? (journal : Journal) (name : String) : Option Nesting :=
  match journal name with
  | some (.search nesting) => some nesting
  | _ => none

/-- A new search over what a name stands for, if its own level could begin. -/
def begin? (journal : Journal) (source : String) (own : Option Level) : Option Nesting :=
  (journal.base? source).bind fun below => own.map fun level => ⟨level, below⟩

theorem begin?_none (journal : Journal) (source : String) : journal.begin? source none = none :=
  Option.bind_fun_none _

/-- What a call makes of the search of a name, if it does not fail. -/
def derive? (journal : Journal) (target : String) (call : Call) : Option Nesting :=
  match call.fault? with
  | none => (journal.search? target).map fun nesting => nesting.after call
  | some _ => none

/-- The level that choices of properties and settings begin, if they can. -/
def begun? (selectors : Except Fault (List Selector)) (comparison placement : Option Value) :
    Option Level :=
  match selectors with
  | .ok selectors => (Stage.ofSelectors selectors
      (comparison.getD (.text Comparison.standard.label))
      (placement.getD (.text Placement.standard.label))).toOption.map Level.ofStage
  | .error _ => none

/-- The level that a request makes, if its call does not fail. -/
def requested? (data : Value) : Option Level :=
  match Request.ofValue data with
  | .ok request =>
    match request.call.fault? with
    | none => some ((Level.ofStage request.stage).after request.call)
    | some _ => none
  | .error _ => none

/-- The journal behind a step. -/
def after (journal : Journal) : Step → Journal
  | .makeSource name _ => journal.bind name .source
  | .append _ _ | .remove _ _ | .setField _ _ _ _ => journal
  | .search name source selectors comparison placement =>
    journal.bindSearch name (journal.begin? source (begun? selectors comparison placement))
  | .request name source data => journal.bindSearch name (journal.begin? source (requested? data))
  | .call name target call => journal.bindSearch name (journal.derive? target call)
  | .rank name target =>
    match journal.search? target with
    | some nesting => journal.bind name (.ranking nesting)
    | none => journal
  | .show _ | .list _ | .order _ | .hits _ _ | .test _ _ => journal
  | .iterate name target =>
    match journal target with
    | some (.search nesting) | some (.ranking nesting) => journal.bind name (.cursor nesting false)
    | _ => journal
  | .next target =>
    match journal target with
    | some (.cursor nesting _) => journal.bind target (.cursor nesting true)
    | _ => journal

/-- The journal behind steps, from the beginning of a session. -/
def behind (history : List Step) : Journal :=
  history.foldl after empty

/-! ## Right journals -/

/-- A journal is right about a session whose sources are all lists: about what is bound to each
name. -/
structure Follows (journal : Journal) (σ : Session) : Prop where
  names : ∀ name,
    (σ.names.get? name).map Binding.role = (journal name).map (Role.map Nesting.search)
  sources : ∀ source ∈ σ.sources, source.list?.isSome = true

/-- A name is bound to what the journal tells of it. -/
inductive Tells (journal : Journal) (σ : Session) (name : String) : Prop
  | nothing (hname : σ.names.get? name = none) (hrole : journal name = none)
  | source (place : Nat) (hname : σ.names.get? name = some (.source place))
      (hrole : journal name = some .source)
  | search (origin : Nat) (nesting : Nesting)
      (hname : σ.names.get? name = some (.search origin nesting.search))
      (hrole : journal name = some (.search nesting))
  | ranking (origin : Nat) (nesting : Nesting)
      (hname : σ.names.get? name = some (.ranking origin nesting.search))
      (hrole : journal name = some (.ranking nesting))
  | cursor (cursor : Cursor) (nesting : Nesting)
      (hname : σ.names.get? name = some (.cursor cursor))
      (hrole : journal name = some (.cursor nesting (cursor.progress != .unopened)))
      (hsearch : cursor.search = nesting.search)

end Journal

/-- Whether the source that a step makes, if it makes one, is a list. -/
def Step.usesLists : Step → Bool
  | makeSource _ source => source.list?.isSome
  | _ => true

namespace Journal.Follows

variable {journal : Journal} {σ : Session}

theorem empty : Journal.empty.Follows Session.empty :=
  ⟨fun _ => rfl, nofun⟩

theorem bind (h : journal.Follows σ) {name : String} {binding : Binding} {role : Role Nesting}
    (hrole : binding.role = role.map Nesting.search) :
    (journal.bind name role).Follows (σ.bind name binding) where
  names other := by
    by_cases hother : other = name
    · subst hother
      rw [Session.bind, Fields.get?_put_self, Journal.bind, Function.update_self, Option.map_some,
        Option.map_some, hrole]
    · rw [Session.bind, Fields.get?_put_of_ne _ _ hother, Journal.bind,
        Function.update_of_ne hother]
      exact h.names other
  sources := h.sources

/-! ### What the session finds -/

/-- A right journal tells of every name what is bound to it. -/
theorem tells (h : journal.Follows σ) (name : String) : journal.Tells σ name := by
  have hnames := h.names name
  cases hname : σ.names.get? name with
  | none =>
    rw [hname, Option.map_none, eq_comm, Option.map_eq_none_iff] at hnames
    exact .nothing hname hnames
  | some binding =>
    rw [hname, Option.map_some, eq_comm, Option.map_eq_some_iff] at hnames
    obtain ⟨role, hrole, hsame⟩ := hnames
    cases binding with
    | source place =>
      cases role with
      | source => exact .source place hname hrole
      | _ => exact nomatch hsame
    | search origin s =>
      cases role with
      | search nesting =>
        obtain rfl : nesting.search = s := Role.search.inj hsame
        exact .search origin nesting hname hrole
      | _ => exact nomatch hsame
    | ranking origin s =>
      cases role with
      | ranking nesting =>
        obtain rfl : nesting.search = s := Role.ranking.inj hsame
        exact .ranking origin nesting hname hrole
      | _ => exact nomatch hsame
    | cursor cursor =>
      cases role with
      | cursor nesting opened =>
        obtain ⟨hsearch, rfl⟩ := Role.cursor.inj hsame
        exact .cursor cursor nesting hname hrole hsearch.symm
      | _ => exact nomatch hsame

/-- A list can be gone through from any place. -/
theorem exists_remaining (h : journal.Follows σ) (place position : Nat) :
    ∃ items, σ.remaining place position = .ok items := by
  rw [Session.remaining]
  cases hsource : σ.sources[place]? with
  | none => exact ⟨[], rfl⟩
  | some source =>
    have hlist := h.sources source (List.mem_of_getElem? hsource)
    cases source with
    | list items => exact ⟨items.drop position, rfl⟩
    | stream | fixed => exact absurd hlist Bool.false_ne_true

/-- Where a search can begin, the journal tells of the levels below it. -/
theorem baseOf (h : journal.Follows σ) (source : String) :
    (σ.baseOf source = .error (.unboundName source) ∧ journal.base? source = none) ∨
      ∃ origin starting below, σ.baseOf source = .ok (origin, starting) ∧
        journal.base? source = some below ∧
        ∀ own : Level, starting own.stage = (Nesting.mk own below).search := by
  rw [Session.baseOf, Journal.base?]
  cases h.tells source with
  | nothing hname hrole | ranking _ _ hname hrole | cursor _ _ hname hrole =>
    rw [hname, hrole]
    exact .inl ⟨rfl, rfl⟩
  | source place hname hrole =>
    rw [hname, hrole]
    exact .inr ⟨place, Search.start, [], rfl, rfl, fun _ => rfl⟩
  | search origin inner hname hrole =>
    rw [hname, hrole]
    exact .inr ⟨origin, inner.search.narrow, inner.levels, rfl, rfl, fun _ => rfl⟩

/-- The session finds the searches that the journal tells of. -/
theorem searchOf (h : journal.Follows σ) (target : String) :
    (σ.searchOf target = .error (.unboundName target) ∧ journal.search? target = none) ∨
      ∃ origin nesting, σ.searchOf target = .ok (origin, nesting.search) ∧
        journal.search? target = some nesting := by
  rw [Session.searchOf, Journal.search?]
  cases h.tells target with
  | search origin nesting hname hrole =>
    rw [hname, hrole]
    exact .inr ⟨origin, nesting, rfl, rfl⟩
  | nothing hname hrole | source _ hname hrole | ranking _ _ hname hrole | cursor _ _ hname hrole =>
    rw [hname, hrole]
    exact .inl ⟨rfl, rfl⟩

/-! ### Sources -/

/-- A source is changed that stays a list. -/
theorem modifySource (h : journal.Follows σ) (place : Nat) {f : Source → Source}
    (hf : ∀ source, (f source).list?.isSome = source.list?.isSome) :
    journal.Follows (σ.modifySource place f) where
  names := h.names
  sources source hmem := by
    obtain ⟨i, hi⟩ := List.mem_iff_getElem?.mp hmem
    rw [Session.modifySource, List.getElem?_modify] at hi
    obtain ⟨old, hold, rfl⟩ := Option.map_eq_some_iff.mp hi
    have hlist := h.sources old (List.mem_of_getElem? hold)
    split
    · rw [hf, hlist]
    · exact hlist

theorem makeSource (h : journal.Follows σ) (name : String) {source : Source}
    (hlist : source.list?.isSome = true) :
    (journal.bind name .source).Follows (σ.step (.makeSource name source)).1 := by
  have hmade : journal.Follows { σ with sources := σ.sources ++ [source] } :=
    ⟨h.names, List.forall_mem_append.mpr ⟨h.sources, List.forall_mem_singleton.mpr hlist⟩⟩
  exact hmade.bind rfl

theorem changeItems (h : journal.Follows σ) (name : String)
    (change : List Value → List Value) (reply : List Value → Answer) :
    journal.Follows (σ.changeItems name change reply).1 := by
  rw [Session.changeItems]
  split
  · exact h
  · exact h.modifySource _ fun source => by cases source <;> rfl

/-- Taking items from a source leaves it the list that it is. -/
theorem take (h : journal.Follows σ) (place count : Nat) (atEnd : Bool) :
    journal.Follows (σ.modifySource place fun source => source.take count atEnd) :=
  h.modifySource place fun source => by cases source <;> rfl

theorem evaluate (h : journal.Follows σ) (place : Nat)
    (run : Except Fault (List Value) → Traced Event Answer) :
    journal.Follows (σ.evaluate place run).1 :=
  h.take place _ _

/-! ### Searches -/

/-- A search is bound if one was made. -/
theorem bindSearch (h : journal.Follows σ) (name : String) (origin : Nat)
    {made : Traced Event Search} {nesting : Option Nesting}
    (hmade : made.result.toOption = nesting.map Nesting.search) :
    (journal.bindSearch name nesting).Follows (σ.bindSearch name origin made).1 := by
  rw [Session.bindSearch]
  cases hresult : made.result with
  | error fault =>
    rw [hresult] at hmade
    obtain rfl : nesting = none := Option.map_eq_none_iff.mp hmade.symm
    exact h
  | ok s =>
    rw [hresult] at hmade
    obtain ⟨found, rfl, rfl⟩ := Option.map_eq_some_iff.mp hmade.symm
    exact h.bind rfl

/-- A search begins over what a name stands for, if its own level can. -/
theorem beginSearch (h : journal.Follows σ) (name source : String)
    {make : (Stage → Search) → Traced Event Search} {own : Option Level}
    (hmake : ∀ starting below,
      (∀ level : Level, starting level.stage = (Nesting.mk level below).search) →
      (make starting).result.toOption = own.map fun level => (Nesting.mk level below).search) :
    (journal.bindSearch name (journal.begin? source own)).Follows
      (match σ.baseOf source with
        | .error cause => σ.fault cause
        | .ok (origin, starting) => σ.bindSearch name origin (make starting)).1 := by
  rw [Journal.begin?]
  rcases h.baseOf source with ⟨hbase, hnone⟩ | ⟨origin, starting, below, hbase, hbelow, hstarting⟩
  · rw [hbase, hnone]
    exact h
  · rw [hbase, hbelow]
    refine h.bindSearch name origin ((hmake starting below hstarting).trans ?_)
    rw [Option.bind_some, Option.map_map]
    rfl

theorem makeSearch (h : journal.Follows σ) (name source : String)
    (selectors : Except Fault (List Selector)) (comparison placement : Option Value) :
    (journal.bindSearch name
      (journal.begin? source (begun? selectors comparison placement))).Follows
      (σ.makeSearch name source selectors comparison placement).1 := by
  cases selectors with
  | error cause =>
    rw [begun?, begin?_none]
    exact h
  | ok selectors =>
    refine h.beginSearch name source fun starting below hstarting => ?_
    rw [Traced.result_ofExcept, begun?]
    cases hstage : Stage.ofSelectors selectors (comparison.getD (.text Comparison.standard.label))
        (placement.getD (.text Placement.standard.label)) with
    | error fault => rfl
    | ok stage =>
      -- a search begins without conditions, so its level is the stage again
      obtain ⟨-, -, -, -, hconditions⟩ := Stage.ofSelectors_eq_ok_iff.mp hstage
      have hsearch := hstarting (Level.ofStage stage)
      rw [Level.stage_ofStage hconditions] at hsearch
      exact congrArg some hsearch

theorem makeRequest (h : journal.Follows σ) (name source : String) (data : Value) :
    (journal.bindSearch name (journal.begin? source (requested? data))).Follows
      (σ.makeRequest name source data).1 := by
  rw [Session.makeRequest, requested?]
  cases hrequest : Request.ofValue data with
  | error issues =>
    dsimp only
    rw [begin?_none]
    exact h
  | ok request =>
    refine h.beginSearch name source fun starting below hstarting => ?_
    rw [Request.apply_result (Request.wellFormed_of_ofValue hrequest), Search.call_result]
    dsimp only
    -- the search that the call is made on begins with the stage of the request
    have hsearch := hstarting (Level.ofStage request.stage)
    rw [Level.stage_ofStage rfl] at hsearch
    cases hfault : request.call.fault? with
    | some fault => rfl
    | none =>
      rw [hsearch]
      exact congrArg (fun own => some (Search.mk own (below.map Level.stage)))
        (Level.stage_after _ _).symm

theorem makeCall (h : journal.Follows σ) (name target : String) (call : Call) :
    (journal.bindSearch name (journal.derive? target call)).Follows
      (σ.makeCall name target call).1 := by
  rw [Session.makeCall, Journal.derive?]
  rcases h.searchOf target with ⟨hsearch, hnone⟩ | ⟨origin, nesting, hsearch, hnesting⟩
  · rw [hsearch, hnone]
    cases call.fault? <;> exact h
  · rw [hsearch, hnesting]
    refine h.bindSearch name origin ?_
    rw [Search.call_result]
    cases hfault : call.fault? with
    | some fault => rfl
    | none =>
      exact congrArg (fun own => some (Search.mk own (nesting.below.map Level.stage)))
        (Level.stage_after _ _).symm

theorem makeRanking (h : journal.Follows σ) (name target : String) :
    (journal.after (.rank name target)).Follows (σ.makeRanking name target).1 := by
  rw [Session.makeRanking, Journal.after]
  rcases h.searchOf target with ⟨hsearch, hnone⟩ | ⟨origin, nesting, hsearch, hnesting⟩
  · rw [hsearch, hnone]
    exact h
  · rw [hsearch, hnesting]
    exact h.bind rfl

/-! ### Cursors -/

/-- Since a list can be gone through, a cursor over it can be made. -/
theorem bindCursor (h : journal.Follows σ) (name : String) (origin : Nat) (nesting : Nesting)
    (ranks : Bool) :
    (journal.bind name (.cursor nesting false)).Follows
      (σ.bindCursor name origin nesting.search ranks).1 := by
  have hbind : (journal.bind name (.cursor nesting false)).Follows
      (σ.bind name (.cursor ⟨origin, nesting.search, ranks, .unopened⟩)) := h.bind rfl
  obtain ⟨items, hitems⟩ := h.exists_remaining origin 0
  rw [Session.bindCursor, hitems]
  split <;> exact hbind

theorem makeCursor (h : journal.Follows σ) (name target : String) :
    (journal.after (.iterate name target)).Follows (σ.makeCursor name target).1 := by
  rw [Session.makeCursor, Journal.after]
  cases h.tells target with
  | nothing hname hrole | source _ hname hrole | cursor _ _ hname hrole =>
    rw [hname, hrole]
    exact h
  | search origin nesting hname hrole =>
    rw [hname, hrole]
    exact h.bindCursor name origin nesting false
  | ranking origin nesting hname hrole =>
    rw [hname, hrole]
    exact h.bindCursor name origin nesting true

/-- A cursor that was moved is opened, and it goes through the same search. -/
private theorem role_after (cursor : Cursor) (move : Traced Event (Option Found)) :
    (Binding.cursor (cursor.after move)).role = .cursor cursor.search true := by
  rw [Cursor.after]
  split <;> rfl

theorem moveCursor (h : journal.Follows σ) (target : String) :
    (journal.after (.next target)).Follows (σ.moveCursor target).1 := by
  rw [Session.moveCursor, Session.cursorOf, Journal.after]
  cases h.tells target with
  | nothing hname hrole | source _ hname hrole | search _ _ hname hrole | ranking _ _ hname hrole =>
    rw [hname, hrole]
    exact h
  | cursor cursor nesting hname hrole hsearch =>
    rw [hname, hrole]
    dsimp only
    split
    · next hfinished =>
      -- nothing changes, and the journal tells of a cursor that was moved before
      rw [hfinished] at hrole
      have hsame : journal.bind target (.cursor nesting true) = journal :=
        Function.update_eq_self_iff.mpr hrole.symm
      rw [hsame]
      exact h
    · exact (h.take cursor.origin _ _).bind
        ((role_after cursor _).trans (congrArg (Role.cursor · true) hsearch))

/-! ### Steps -/

/-- A journal that is kept along a step stays right, as long as all sources are lists. -/
theorem step (h : journal.Follows σ) {step : Step} (hlists : step.usesLists = true) :
    (journal.after step).Follows (σ.step step).1 := by
  cases step with
  | makeSource name source => exact h.makeSource name hlists
  | append source items => exact h.changeItems source _ _
  | remove source index => exact h.changeItems source _ _
  | setField source index field value => exact h.changeItems source _ _
  | search name source selectors comparison placement =>
    exact h.makeSearch name source selectors comparison placement
  | request name source data => exact h.makeRequest name source data
  | call name target call => exact h.makeCall name target call
  | rank name target => exact h.makeRanking name target
  | «show» target =>
    have hshow : (σ.showTarget target).1 = σ := by
      rw [Session.showTarget]
      split <;> rfl
    exact hshow.symm ▸ h
  | list target =>
    show journal.Follows (σ.listTarget target).1
    rw [Session.listTarget]
    split
    · exact h.evaluate _ _
    · exact h.evaluate _ _
    · exact h
  | order target =>
    show journal.Follows (σ.orderTarget target).1
    rw [Session.orderTarget]
    split
    · exact h
    · exact h.evaluate _ _
  | hits target item =>
    have hcount : (σ.countTarget target item).1 = σ := by
      rw [Session.countTarget]
      split <;> rfl
    exact hcount.symm ▸ h
  | test target item =>
    have htest : (σ.testTarget target item).1 = σ := by
      rw [Session.testTarget]
      split <;> rfl
    exact htest.symm ▸ h
  | iterate name target => exact h.makeCursor name target
  | next target => exact h.moveCursor target

/-- A journal that is kept along steps stays right. -/
theorem after {history : List Step} (h : journal.Follows σ)
    (hlists : ∀ step ∈ history, step.usesLists = true) :
    (history.foldl Journal.after journal).Follows (σ.after history) := by
  induction history generalizing journal σ with
  | nil => exact h
  | cons step rest ih =>
    rw [List.forall_mem_cons] at hlists
    exact ih (h.step hlists.1) hlists.2

end Journal.Follows

end TermSearch
