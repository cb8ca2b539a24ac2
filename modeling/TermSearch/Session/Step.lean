import TermSearch.Request
import TermSearch.Session.Basic

/-!
# Steps of a Session

The steps by which sources are made and changed, searches are made, and searches, rankings and
cursors are evaluated. Evaluation takes the items that the source has at that time. A step that
fails binds no name.

## Main definitions

- `Session.step`: the session after a step, and the answer of the step.
- `Session.run`: the answers of a list of steps.
-/

namespace TermSearch

/-- One step of a session. Names come first, then what the step needs. -/
inductive Step where
  | makeSource (name : String) (source : Source)
  | append (source : String) (items : List Value)
  | remove (source : String) (index : Nat)
  | setField (source : String) (index : Nat) (field : String) (value : Value)
  | search (name source : String) (selectors : Except Fault (List Selector))
      (comparison placement : Option Value)
  | request (name source : String) (data : Value)
  | call (name target : String) (call : Call)
  | rank (name target : String)
  | show (target : String)
  | list (target : String)
  | order (target : String)
  | hits (target : String) (item : Value)
  | test (target : String) (item : Value)
  | iterate (name target : String)
  | next (target : String)

/-- What a step answers. -/
inductive Answer where
  | nothing
  | length (n : Nat)
  | item (v : Value)
  | search (s : Search)
  | ranking (s : Search)
  | found (entries : List Found)
  | hits (n : Nat)
  | verdict (holds : Bool)
  | next (entry : Option Found)

/-- The outcome of a step: the session after it, and its answer with what it made known. -/
abbrev Session.Outcome := Session × Traced Event Answer

namespace Session

/-- A step that fails. -/
def fault (σ : Session) (cause : Fault) : Outcome :=
  (σ, .fail cause)

/-- A step that answers at once. -/
def answer (σ : Session) (a : Answer) : Outcome :=
  (σ, pure a)

/-- Binds a name to a search, if one was made, and shows it. -/
def bindSearch (σ : Session) (name : String) (origin : Nat) (made : Traced Event Search) :
    Outcome :=
  let after :=
    match made.result with
    | .ok s => σ.bind name (.search origin s)
    | .error _ => σ
  (after, Answer.search <$> made)

/-- Goes through a source from its beginning, or from where it is if it is a stream. What the
evaluation took from a stream stays taken. -/
def evaluate (σ : Session) (place : Nat)
    (run : Except Fault (List Value) → Traced Event Answer) : Outcome :=
  let outcome := run (σ.remaining place 0)
  let count := (Trace.pulled outcome.trace).length
  (σ.modifySource place fun source => source.take count outcome.result.toBool, outcome)

/-- Changes the items of the source of a name. -/
def changeItems (σ : Session) (name : String) (change : List Value → List Value)
    (reply : List Value → Answer) : Outcome :=
  match σ.sourceOf name with
  | .error cause => σ.fault cause
  | .ok place =>
    let items := change (σ.itemsAt place)
    ((σ.modifySource place fun source => source.withItems items), pure (reply items))

/-- Makes a search over what a name stands for. The choices of properties may have failed
before. -/
def makeSearch (σ : Session) (name source : String) (selectors : Except Fault (List Selector))
    (comparison placement : Option Value) : Outcome :=
  match selectors with
  | .error cause => σ.fault cause
  | .ok selectors =>
    match σ.baseOf source with
    | .error cause => σ.fault cause
    | .ok (origin, starting) =>
      let stage := Stage.ofSelectors selectors
        (comparison.getD (.text Comparison.standard.label))
        (placement.getD (.text Text.Placement.standard.label))
      σ.bindSearch name origin (.ofExcept (stage.map starting))

/-- Makes the search that a request asks for. -/
def makeRequest (σ : Session) (name source : String) (data : Value) : Outcome :=
  match Request.ofValue data with
  | .error issues => σ.fault (.invalidRequest issues)
  | .ok request =>
    match σ.baseOf source with
    | .error cause => σ.fault cause
    | .ok (origin, starting) => σ.bindSearch name origin (request.apply starting)

/-- Takes a step in the building of a search. -/
def makeCall (σ : Session) (name target : String) (call : Call) : Outcome :=
  match σ.searchOf target with
  | .error cause => σ.fault cause
  | .ok (origin, s) => σ.bindSearch name origin (s.call call)

/-- Makes the ranking of a search. -/
def makeRanking (σ : Session) (name target : String) : Outcome :=
  match σ.searchOf target with
  | .error cause => σ.fault cause
  | .ok (origin, s) => (σ.bind name (.ranking origin s)).answer (.ranking s)

/-- Shows what a name stands for. -/
def showTarget (σ : Session) (target : String) : Outcome :=
  match σ.names.get? target with
  | some (.search _ s) => σ.answer (.search s)
  | some (.ranking _ s) => σ.answer (.ranking s)
  | _ => σ.fault (.unboundName target)

/-- Goes through a search or a ranking to its end. -/
def listTarget (σ : Session) (target : String) : Outcome :=
  match σ.names.get? target with
  | some (.search origin s) =>
    σ.evaluate origin fun source => (fun l => .found (l.map .plain)) <$> s.items source
  | some (.ranking origin s) =>
    σ.evaluate origin fun source => (fun l => .found (l.map .ranked)) <$> s.ranked source
  | _ => σ.fault (.unboundName target)

/-- Goes through a ranking and orders it. -/
def orderTarget (σ : Session) (target : String) : Outcome :=
  match σ.rankingOf target with
  | .error cause => σ.fault cause
  | .ok (origin, s) =>
    σ.evaluate origin fun source => (fun l => .found (l.map .ranked)) <$> s.rankedByHits source

/-- Counts the hits of an item. -/
def countTarget (σ : Session) (target : String) (item : Value) : Outcome :=
  match σ.rankingOf target with
  | .error cause => σ.fault cause
  | .ok (_, s) => (σ, Answer.hits <$> s.countHits item)

/-- Tries an item by the own conditions of a search. -/
def testTarget (σ : Session) (target : String) (item : Value) : Outcome :=
  match σ.searchOf target with
  | .error cause => σ.fault cause
  | .ok (_, s) => (σ, Answer.verdict <$> s.own.accepts item)

/-- Binds a name to a cursor. A search without conditions opens its source at once; all others
wait until the first item is asked for. -/
def bindCursor (σ : Session) (name : String) (origin : Nat) (s : Search) (ranks : Bool) :
    Outcome :=
  let opened := σ.bind name (.cursor ⟨origin, s, ranks, .unopened⟩)
  if !ranks && s.isPlain then
    match σ.remaining origin 0 with
    | .ok _ => opened.answer .nothing
    | .error cause => σ.fault cause
  else opened.answer .nothing

/-- Makes a cursor over a search or a ranking. -/
def makeCursor (σ : Session) (name target : String) : Outcome :=
  match σ.names.get? target with
  | some (.search origin s) => σ.bindCursor name origin s false
  | some (.ranking origin s) => σ.bindCursor name origin s true
  | _ => σ.fault (.unboundName target)

/-- Moves a cursor on. A cursor that is finished stays where it is. -/
def moveCursor (σ : Session) (target : String) : Outcome :=
  match σ.cursorOf target with
  | .error cause => σ.fault cause
  | .ok cursor =>
    if cursor.progress = .finished then σ.answer (.next none)
    else
      let move := cursor.pull (σ.remaining cursor.origin cursor.taken)
      let count := (Trace.pulled move.trace).length
      let after := σ.modifySource cursor.origin fun source =>
        source.take count (Cursor.reachesEnd move)
      (after.bind target (.cursor (cursor.after move)), Answer.next <$> move)

/-- Takes one step. -/
def step (σ : Session) : Step → Outcome
  | .makeSource name source =>
    (({ σ with sources := σ.sources ++ [source] }).bind name (.source σ.sources.length)).answer
      .nothing
  | .append source items =>
    σ.changeItems source (· ++ items) fun items => .length items.length
  | .remove source index =>
    σ.changeItems source (fun items => items.eraseIdx index) fun items => .length items.length
  | .setField source index field value =>
    σ.changeItems source (fun items => items.modify index (Value.setField field value))
      fun items => .item ((items[index]?).getD .null)
  | .search name source selectors comparison placement =>
    σ.makeSearch name source selectors comparison placement
  | .request name source data => σ.makeRequest name source data
  | .call name target call => σ.makeCall name target call
  | .rank name target => σ.makeRanking name target
  | .show target => σ.showTarget target
  | .list target => σ.listTarget target
  | .order target => σ.orderTarget target
  | .hits target item => σ.countTarget target item
  | .test target item => σ.testTarget target item
  | .iterate name target => σ.makeCursor name target
  | .next target => σ.moveCursor target

/-- Takes steps one after the other, and gathers their answers. -/
def run (σ : Session) : List Step → List (Traced Event Answer)
  | [] => []
  | step :: rest =>
    let (after, answer) := σ.step step
    answer :: after.run rest

end Session

end TermSearch
