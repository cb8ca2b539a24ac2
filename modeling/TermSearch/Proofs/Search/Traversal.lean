import TermSearch.Proofs.Predicate.LeftToRight
import TermSearch.Search.Traversal

/-!
# Traversals

What going through a source comes to, by the turns of its items: in its turn an item is taken,
tried, and visited if it is accepted. The traversal ends in the fault of the first turn that
ends in one, and else gathers what the visits give.

## Main definitions

- `turn`: the turn of one item.
- `Search.Reaches`, `Search.Yields`: the items that a search comes to, and those that it yields.

## Main statements

- `visitAll_result_eq_error_iff`, `visitAll_result_of_ok`: the result of a traversal.
- `visitAll_trace`: the trace of a traversal.
- `Search.items_result_eq_error_iff`, `Search.items_result_of_isOk`, `Search.items_reads`: the
  same for the iteration of a search.
- `Search.advance_pure_result`: one step of the iteration.
-/

namespace TermSearch

/-! ## Turns -/

section

variable {β : Type} {accepts : Predicate Event Value} {visit : Value → Traced Event β}

/-- The turn of one item: it is taken, and visited if it is accepted. -/
def turn (accepts : Predicate Event Value) (visit : Value → Traced Event β) (item : Value) :
    Traced Event (Option β) := do
  Traced.record (.pulled item)
  if ← accepts item then some <$> visit item else pure none

/-- A traversal is the turn of the first item, and then the traversal of the others. -/
theorem visitAll_cons (item : Value) (rest : List Value) :
    visitAll accepts visit (item :: rest) =
      turn accepts visit item >>= fun visited =>
        (visited.toList ++ ·) <$> visitAll accepts visit rest := by
  rw [visitAll, turn]
  simp only [bind_assoc]
  congr 1
  funext _
  congr 1
  funext accepted
  cases accepted <;> simp

/-- A traversal goes on up to the first turn that ends in a fault. -/
theorem visitAll_trace (items : List Value) :
    (visitAll accepts visit items).trace =
      (upToFirst (fun item => !(turn accepts visit item).result.isOk) items).flatMap fun item =>
        (turn accepts visit item).trace := by
  induction items with
  | nil => rfl
  | cons item rest ih =>
    rw [visitAll_cons]
    cases h : (turn accepts visit item).result with
    | error fault =>
      rw [Traced.bind_of_result_error h, upToFirst_cons_of_stops (by rw [h]; rfl)]
      simp
    | ok visited =>
      rw [Traced.bind_of_result_ok h, upToFirst_cons_of_not (by rw [h]; rfl), List.flatMap_cons,
        ← ih, Traced.trace_map]

/-- The first turn that ends in a fault ends the traversal. -/
private theorem visitAll_result_of_find? {items : List Value} {item : Value} {fault : Fault}
    (hfirst : items.find? (fun item => !(turn accepts visit item).result.isOk) = some item)
    (hfault : (turn accepts visit item).result = .error fault) :
    (visitAll accepts visit items).result = .error fault := by
  induction items with
  | nil => simp at hfirst
  | cons other rest ih =>
    rw [visitAll_cons]
    cases h : (turn accepts visit other).result with
    | error cause =>
      -- this turn is the first that ends in a fault
      rw [List.find?_cons_of_pos (by rw [h]; rfl)] at hfirst
      obtain rfl : other = item := by simpa using hfirst
      obtain rfl : cause = fault := by simpa [h] using hfault
      rw [Traced.bind_of_result_error h]
    | ok visited =>
      rw [List.find?_cons_of_neg (by rw [h]; simp [Except.toBool])] at hfirst
      rw [Traced.bind_of_result_ok h, Traced.result_map, ih hfirst]
      rfl

/-- A traversal whose turns all succeed gathers what they give. -/
theorem visitAll_result_of_ok {items : List Value} {visited : Value → Option β}
    (h : ∀ item ∈ items, (turn accepts visit item).result = .ok (visited item)) :
    (visitAll accepts visit items).result = .ok (items.filterMap visited) := by
  induction items with
  | nil => rfl
  | cons item rest ih =>
    have hrest := ih fun other hmem => h other (List.mem_cons_of_mem item hmem)
    rw [visitAll_cons, Traced.bind_of_result_ok (h item List.mem_cons_self), Traced.result_map,
      hrest, List.filterMap_cons]
    cases visited item <;> rfl

/-- A traversal ends in a fault where a turn does and all turns before it succeed. -/
theorem visitAll_result_eq_error_iff {items : List Value} {fault : Fault} :
    (visitAll accepts visit items).result = .error fault ↔
      ∃ before item after, items = before ++ item :: after ∧
        (∀ earlier ∈ before, (turn accepts visit earlier).result.isOk = true) ∧
        (turn accepts visit item).result = .error fault := by
  constructor
  · intro h
    cases hfirst : items.find? fun item => !(turn accepts visit item).result.isOk with
    | none =>
      -- no turn ends in a fault, so the traversal cannot
      rw [List.find?_eq_none] at hfirst
      have hok : ∀ item ∈ items, (turn accepts visit item).result =
          .ok ((turn accepts visit item).result.toOption.getD none) := by
        intro item hmem
        have := hfirst item hmem
        cases hturn : (turn accepts visit item).result with
        | error cause => rw [hturn] at this; exact absurd rfl this
        | ok visited => rfl
      rw [visitAll_result_of_ok hok] at h
      simp at h
    | some item =>
      obtain ⟨hstops, before, after, hitems, hbefore⟩ := List.find?_eq_some_iff_append.mp hfirst
      refine ⟨before, item, after, hitems, by simpa using hbefore, ?_⟩
      cases hturn : (turn accepts visit item).result with
      | error cause =>
        rw [visitAll_result_of_find? hfirst hturn] at h
        simpa using h
      | ok visited => rw [hturn] at hstops; simp [Except.toBool] at hstops
  · rintro ⟨before, item, after, hitems, hbefore, hfault⟩
    refine visitAll_result_of_find? (List.find?_eq_some_iff_append.mpr ?_) hfault
    exact ⟨by rw [hfault]; rfl, before, after, hitems, by simpa using hbefore⟩

/-- A turn comes to what trying the item does, and then to what the visit does. -/
theorem turn_result (accepts : Predicate Event Value) (visit : Value → Traced Event β)
    (item : Value) :
    (turn accepts visit item).result =
      match (accepts item).result with
      | .error fault => .error fault
      | .ok true => (visit item).result.map some
      | .ok false => .ok none := by
  rw [turn, Traced.bind_of_result_ok (Traced.result_record _)]
  rcases h : (accepts item).result with fault | _ | _
  · rw [Traced.bind_of_result_error h]
  · rw [Traced.bind_of_result_ok h]
    rfl
  · rw [Traced.bind_of_result_ok h, if_pos rfl, Traced.result_map]

/-- A traversal whose visits all succeed visits what going through the items gathers. -/
theorem visitAll_result_of_visit {items : List Value} {visited : Value → β}
    (h : ∀ item ∈ items, (visit item).result = .ok (visited item)) :
    (visitAll accepts visit items).result =
      (visitAll accepts pure items).result.map (List.map visited) := by
  induction items with
  | nil => rfl
  | cons item rest ih =>
    have hrest := ih fun other hmem => h other (List.mem_cons_of_mem item hmem)
    have hvisit := turn_result accepts visit item
    have hpure := turn_result accepts pure item
    rw [h item List.mem_cons_self] at hvisit
    rw [visitAll_cons, visitAll_cons]
    cases hitem : (accepts item).result with
    | error fault =>
      rw [hitem] at hvisit hpure
      rw [Traced.bind_of_result_error hvisit, Traced.bind_of_result_error hpure]
      rfl
    | ok accepted =>
      rw [hitem] at hvisit hpure
      -- refused or accepted, both turns succeed, and what they give is put before the rest
      cases accepted
      all_goals
        rw [Traced.bind_of_result_ok hvisit, Traced.bind_of_result_ok hpure, Traced.result_map,
          Traced.result_map, hrest]
        cases (visitAll accepts pure rest).result <;> rfl

/-- Where a visit shows which item it was made to, the visited items are those that going through
the items gathers. -/
theorem visitAll_pure_result_of_ok {items : List Value} {visits : List β} {itemOf : β → Value}
    (hvisit : ∀ item b, (visit item).result = .ok b → itemOf b = item)
    (h : (visitAll accepts visit items).result = .ok visits) :
    (visitAll accepts pure items).result = .ok (visits.map itemOf) := by
  have hturn : ∀ item visited, (turn accepts visit item).result = .ok visited →
      (turn accepts pure item).result = .ok (visited.map itemOf) := by
    intro item visited hresult
    rw [turn_result] at hresult ⊢
    rcases haccepts : (accepts item).result with fault | _ | _ <;> rw [haccepts] at hresult
    · exact nomatch hresult
    · obtain rfl : none = visited := Except.ok.inj hresult
      rfl
    · cases hb : (visit item).result with
      | error fault => rw [hb] at hresult; exact nomatch hresult
      | ok b =>
        rw [hb] at hresult
        obtain rfl : some b = visited := Except.ok.inj hresult
        rw [Option.map_some, hvisit item b hb]
        rfl
  induction items generalizing visits with
  | nil =>
    obtain rfl : [] = visits := Except.ok.inj h
    rfl
  | cons item rest ih =>
    rw [visitAll_cons] at h ⊢
    cases hfirst : (turn accepts visit item).result with
    | error fault => rw [Traced.bind_of_result_error hfirst] at h; exact nomatch h
    | ok visited =>
      rw [Traced.bind_of_result_ok hfirst, Traced.result_map] at h
      rw [Traced.bind_of_result_ok (hturn item visited hfirst), Traced.result_map]
      cases hrest : (visitAll accepts visit rest).result with
      | error fault => rw [hrest] at h; exact nomatch h
      | ok more =>
        rw [hrest] at h
        obtain rfl : visited.toList ++ more = visits := Except.ok.inj h
        rw [ih hrest]
        cases visited <;> rfl

/-- What a turn gives is what the visit does. -/
theorem visit_of_turn {item : Value} {visited : Option β} {b : β}
    (h : (turn accepts visit item).result = .ok visited) (hb : b ∈ visited) :
    (visit item).result = .ok b := by
  obtain rfl : visited = some b := hb
  rw [turn_result] at h
  rcases haccepts : (accepts item).result with fault | _ | _ <;> rw [haccepts] at h
  · exact nomatch h
  · exact nomatch h
  · cases hvisit : (visit item).result with
    | error fault => rw [hvisit] at h; exact nomatch h
    | ok other =>
      rw [hvisit] at h
      obtain rfl : other = b := by simpa [Except.map] using h
      rfl

/-- What a traversal gathers comes from visits to items. -/
theorem exists_visit_of_mem {items : List Value} {visits : List β} {b : β}
    (h : (visitAll accepts visit items).result = .ok visits) (hb : b ∈ visits) :
    ∃ item ∈ items, (visit item).result = .ok b := by
  induction items generalizing visits with
  | nil =>
    obtain rfl : [] = visits := Except.ok.inj h
    simp at hb
  | cons item rest ih =>
    rw [visitAll_cons] at h
    cases hfirst : (turn accepts visit item).result with
    | error fault => rw [Traced.bind_of_result_error hfirst] at h; exact nomatch h
    | ok visited =>
      rw [Traced.bind_of_result_ok hfirst, Traced.result_map] at h
      cases hrest : (visitAll accepts visit rest).result with
      | error fault => rw [hrest] at h; exact nomatch h
      | ok more =>
        rw [hrest] at h
        obtain rfl : visited.toList ++ more = visits := Except.ok.inj h
        rcases List.mem_append.mp hb with hb | hb
        · exact ⟨item, List.mem_cons_self, visit_of_turn hfirst (Option.mem_toList.mp hb)⟩
        · obtain ⟨other, hother, hvisit⟩ := ih hrest hb
          exact ⟨other, List.mem_cons_of_mem item hother, hvisit⟩

/-- The fault of a traversal comes from trying an item or from visiting one. -/
theorem exists_of_visitAll_result_eq_error {items : List Value} {fault : Fault}
    (h : (visitAll accepts visit items).result = .error fault) :
    ∃ item ∈ items, (accepts item).result = .error fault ∨ (visit item).result = .error fault := by
  obtain ⟨before, item, after, rfl, -, hfault⟩ := visitAll_result_eq_error_iff.mp h
  refine ⟨item, by simp, ?_⟩
  rw [turn_result] at hfault
  rcases hitem : (accepts item).result with cause | _ | _ <;> rw [hitem] at hfault
  · exact .inl (by simpa using hfault)
  · simp at hfault
  · cases hvisit : (visit item).result with
    | error cause =>
      rw [hvisit] at hfault
      exact .inr (by simpa [Except.map] using hfault)
    | ok b => rw [hvisit] at hfault; simp [Except.map] at hfault

/-- The turn of an item that is visited by doing nothing more. -/
theorem turn_pure_result (accepts : Predicate Event Value) (item : Value) :
    (turn accepts pure item).result =
      (accepts item).result.map fun accepted => if accepted then some item else none := by
  rw [turn_result]
  rcases (accepts item).result with fault | _ | _ <;> rfl

theorem turn_pure_trace (accepts : Predicate Event Value) (item : Value) :
    (turn accepts pure item).trace = .pulled item :: (accepts item).trace := by
  rw [turn, Traced.bind_of_result_ok (Traced.result_record _)]
  cases h : (accepts item).result with
  | error fault => rw [Traced.bind_of_result_error h]; rfl
  | ok accepted => rw [Traced.bind_of_result_ok h]; cases accepted <;> simp

theorem isOk_turn_pure_result (accepts : Predicate Event Value) (item : Value) :
    (turn accepts pure item).result.isOk = (accepts item).result.isOk := by
  rw [turn_pure_result]
  cases (accepts item).result <;> rfl

end

/-! ## Items -/

namespace Search

variable {s : Search} {items : List Value}

theorem traverse_ok {β : Type} (s : Search) (visit : Value → Traced Event β)
    (items : List Value) :
    s.traverse visit (.ok items) =
      ⟨s.announcements.map .logged ++ (visitAll s.accepts visit items).trace,
        (visitAll s.accepts visit items).result⟩ :=
  Traced.bind_of_result_ok rfl _

/-- Iterating a search ends in a fault where trying an item does and no item before it. -/
theorem items_result_eq_error_iff {fault : Fault} :
    (s.items (.ok items)).result = .error fault ↔
      ∃ before item after, items = before ++ item :: after ∧
        (∀ earlier ∈ before, (s.accepts earlier).result.isOk = true) ∧
        (s.accepts item).result = .error fault := by
  have hfault : ∀ item, (turn s.accepts pure item).result = .error fault ↔
      (s.accepts item).result = .error fault := by
    intro item
    rw [turn_pure_result]
    cases (s.accepts item).result <;> simp [Except.map]
  rw [Search.items, traverse_ok]
  simp only [visitAll_result_eq_error_iff, isOk_turn_pure_result, hfault]

/-- Where no item is tried to a fault, iterating a search gathers the accepted items. -/
theorem items_result_of_isOk (h : ∀ item ∈ items, (s.accepts item).result.isOk = true) :
    (s.items (.ok items)).result =
      .ok (items.filter fun item => Verdict.isYes (s.accepts item).result) := by
  have hturn : ∀ item ∈ items, (turn s.accepts pure item).result =
      .ok (Option.guard (fun item => Verdict.isYes (s.accepts item).result) item) := by
    intro item hmem
    have hok := h item hmem
    rw [turn_pure_result]
    cases hitem : (s.accepts item).result with
    | error fault => rw [hitem] at hok; simp [Except.toBool] at hok
    | ok accepted => simp [Except.map, Option.guard, hitem]
  rw [Search.items, traverse_ok]
  exact (visitAll_result_of_ok hturn).trans (by rw [List.filterMap_eq_filter])

/-- Iterating a search succeeds where no item is tried to a fault, and then gathers the accepted
items. -/
theorem items_result_eq_ok_iff {yielded : List Value} :
    (s.items (.ok items)).result = .ok yielded ↔
      (∀ item ∈ items, (s.accepts item).result.isOk = true) ∧
        yielded = items.filter fun item => Verdict.isYes (s.accepts item).result := by
  constructor
  · intro h
    have hok : ∀ item ∈ items, (s.accepts item).result.isOk = true := by
      cases hfirst : items.find? fun item => !(s.accepts item).result.isOk with
      | none => simpa using hfirst
      | some failing =>
        -- the first item that is tried to a fault would have ended the iteration
        obtain ⟨hfails, before, after, hitems, hbefore⟩ := List.find?_eq_some_iff_append.mp hfirst
        cases hfault : (s.accepts failing).result with
        | ok accepted => rw [hfault] at hfails; simp [Except.toBool] at hfails
        | error fault =>
          have := items_result_eq_error_iff.mpr
            ⟨before, failing, after, hitems, by simpa using hbefore, hfault⟩
          rw [h] at this
          simp at this
    exact ⟨hok, Except.ok.inj (h.symm.trans (items_result_of_isOk hok))⟩
  · rintro ⟨hok, rfl⟩
    exact items_result_of_isOk hok

/-- Items behind others are yielded behind those, if none of them is tried to a fault. -/
theorem items_result_append {yielded more : List Value}
    (h : (s.items (.ok items)).result = .ok yielded)
    (hok : ∀ item ∈ more, (s.accepts item).result.isOk = true) :
    (s.items (.ok (items ++ more))).result =
      .ok (yielded ++ more.filter fun item => Verdict.isYes (s.accepts item).result) := by
  obtain ⟨hall, rfl⟩ := items_result_eq_ok_iff.mp h
  exact items_result_eq_ok_iff.mpr
    ⟨List.forall_mem_append.mpr ⟨hall, hok⟩, (List.filter_append ..).symm⟩

/-- Iterating a search makes the reads of its items up to the first that is tried to a fault. -/
theorem items_reads :
    Trace.reads (s.items (.ok items)).trace =
      (upToFirst (fun item => !(s.accepts item).result.isOk) items).flatMap fun item =>
        Trace.reads (s.accepts item).trace := by
  have hlogged : Trace.reads (s.announcements.map .logged) = [] := by
    simp [Trace.reads, List.filterMap_map, Function.comp_def, Event.read?]
  rw [Search.items, traverse_ok]
  simp only [Trace.reads_append, hlogged, List.nil_append, visitAll_trace,
    isOk_turn_pure_result, Trace.reads_flatMap, turn_pure_trace]
  rfl

/-- Going on to the next item of a search comes to the first item that is not refused. -/
theorem advance_pure_result (s : Search) (rest : List Value) :
    (s.advance pure rest).result =
      match rest.find? fun item => !Verdict.isNo (s.accepts item).result with
      | some item => (s.accepts item).result.map fun _ => some item
      | none => .ok none := by
  rw [advance]
  induction rest with
  | nil => rfl
  | cons item rest ih =>
    rw [visitNext, Traced.bind_of_result_ok (Traced.result_record _)]
    rcases h : (s.accepts item).result with fault | _ | _
    · rw [Traced.bind_of_result_error h, List.find?_cons_of_pos (by simp [h])]
      simp [h, Except.map]
    · rw [Traced.bind_of_result_ok h, List.find?_cons_of_neg (by simp [h])]
      simpa using ih
    · rw [Traced.bind_of_result_ok h, List.find?_cons_of_pos (by simp [h])]
      simp [h, Except.map]

/-- A search over a list is tried by its own stage. -/
theorem accepts_of_below_nil (stage : Stage) (item : Value) :
    (⟨stage, []⟩ : Search).accepts item = stage.accepts item :=
  allOf_singleton _ item

/-! ## What is yielded -/

/-- A search comes to an item of its source: no item before it is tried to a fault. -/
def Reaches (s : Search) (items : List Value) (item : Value) : Prop :=
  ∃ before after, items = before ++ item :: after ∧
    ∀ earlier ∈ before, (s.accepts earlier).result.isOk = true

/-- A search yields an item of its source: it comes to the item and accepts it. -/
def Yields (s : Search) (items : List Value) (item : Value) : Prop :=
  s.Reaches items item ∧ (s.accepts item).result = .ok true

/-- An iteration that is completed gathers what the search yields. -/
theorem mem_iff_yields {yielded : List Value} {item : Value}
    (h : (s.items (.ok items)).result = .ok yielded) : item ∈ yielded ↔ s.Yields items item := by
  obtain ⟨hok, rfl⟩ := items_result_eq_ok_iff.mp h
  rw [List.mem_filter, Verdict.isYes_eq_true_iff]
  constructor
  · rintro ⟨hmem, hyes⟩
    -- any place of the item in the source will do, since all items before it are tried
    obtain ⟨before, after, rfl⟩ := List.append_of_mem hmem
    exact ⟨⟨before, after, rfl, fun earlier hearlier => hok earlier (by simp [hearlier])⟩, hyes⟩
  · rintro ⟨⟨before, after, rfl, -⟩, haccepts⟩
    exact ⟨by simp, haccepts⟩

/-- The next item that an iteration comes to is one that the search yields. -/
theorem yields_of_advance {rest : List Value} {item : Value}
    (h : (s.advance pure rest).result = .ok (some item)) : s.Yields rest item := by
  rw [advance_pure_result] at h
  cases hfirst : rest.find? fun item => !Verdict.isNo (s.accepts item).result with
  | none => rw [hfirst] at h; simp at h
  | some found =>
    obtain ⟨hstops, before, after, hrest, hbefore⟩ := List.find?_eq_some_iff_append.mp hfirst
    simp only [hfirst] at h
    rcases haccepts : (s.accepts found).result with fault | _ | _ <;> rw [haccepts] at h hstops
    · simp [Except.map] at h
    · simp at hstops
    · obtain rfl : found = item := by simpa [Except.map] using h
      -- the items before it were refused, so none of them was tried to a fault
      refine ⟨⟨before, after, hrest, fun earlier hearlier => ?_⟩, haccepts⟩
      have hno := hbefore earlier hearlier
      cases hresult : (s.accepts earlier).result with
      | error fault => rw [hresult] at hno; simp at hno
      | ok accepted => rfl

end Search

end TermSearch
