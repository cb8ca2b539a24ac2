import TermSearch.Proofs.Ranking.Reads
import TermSearch.Proofs.Search.Flow

/-!
# Searches over Searches

A search over the items of another search, and a single search with the conditions of both. Items
are tried by the same conditions in the same order, so the two yield the same flow of items and
differ only in how they announce themselves. They rank differently: a search counts the conditions
of its own, not those of the searches below it.

## Main definitions

- `Search.YieldsAlike`: two searches that yield the same items in the same way.

## Main statements

- `Search.yieldsAlike_of_split`: a stage can be split in two.
- `Search.nesting_is_chaining`: calls on a search over another one, and the same calls behind those
  of the other one.
-/

namespace TermSearch

open Text (Placement)

/-! ## Yielding -/

namespace Search

/-- Two searches yield the same items, with the same events on the way to each and the same fault
at the same place. Only the announcements in front may differ. -/
structure YieldsAlike (s t : Search) : Prop where
  /-- An item is tried. -/
  accepts : ∀ item, s.accepts item = t.accepts item
  /-- The source is handed out as it is. -/
  isPlain : s.isPlain = t.isPlain
  /-- The items of a list are asked for one after the other. -/
  flow : ∀ items, ∃ flow, s.flow items = Flow.behind (s.announcements.map .logged) flow ∧
    t.flow items = Flow.behind (t.announcements.map .logged) flow
  /-- The items of a source are asked for at once. -/
  items : ∀ source, (s.items source).result = (t.items source).result ∧
    ∃ trace, (s.items source).trace = s.announcements.map .logged ++ trace ∧
      (t.items source).trace = t.announcements.map .logged ++ trace
  /-- The next item is asked for. -/
  advance : ∀ rest, s.advance pure rest = t.advance pure rest

variable {s t : Search}

/-- Searches that try items alike go through a source alike, whatever is done with the items that
are accepted. -/
theorem traverse_alike {β : Type} (haccepts : s.accepts = t.accepts)
    (visit : Value → Traced Event β) (source : Except Fault (List Value)) :
    (s.traverse visit source).result = (t.traverse visit source).result ∧
      ∃ trace, (s.traverse visit source).trace = s.announcements.map .logged ++ trace ∧
        (t.traverse visit source).trace = t.announcements.map .logged ++ trace := by
  cases source with
  | error fault =>
    -- the source cannot be opened, and no item is taken
    exact ⟨rfl, [], (List.append_nil _).symm, (List.append_nil _).symm⟩
  | ok items =>
    rw [traverse_ok, traverse_ok, haccepts]
    exact ⟨rfl, _, rfl, rfl⟩

/-- Searches that try items alike yield alike. -/
theorem yieldsAlike_of_eq (haccepts : s.accepts = t.accepts) (hplain : s.isPlain = t.isPlain) :
    YieldsAlike s t where
  accepts item := congrFun haccepts item
  isPlain := hplain
  flow items := by
    refine ⟨(Flow.ofList items).keep s.accepts, s.flow_eq items, ?_⟩
    rw [haccepts]
    exact t.flow_eq items
  items source := traverse_alike haccepts pure source
  advance rest := by rw [Search.advance, Search.advance, haccepts]

/-- A stage over a stage, and a stage with the conditions of both over the same properties. -/
theorem yieldsAlike_of_split {accessors : List Accessor} {c c' c'' : Comparison}
    {p p' p'' : Placement} {first second : List Condition} {below : List Stage} :
    YieldsAlike ⟨⟨accessors, c, p, second⟩, ⟨accessors, c', p', first⟩ :: below⟩
      ⟨⟨accessors, c'', p'', first ++ second⟩, below⟩ := by
  apply yieldsAlike_of_eq
  · funext item
    -- the stages below are tried first, then the first conditions, and then the second ones
    simp only [Search.accepts, stages, List.reverse_cons, List.map_append, List.map_cons,
      List.map_nil, List.append_assoc, allOf_append, allOf_singleton, Stage.accepts]
  · have happend : (first ++ second).isEmpty = (first.isEmpty && second.isEmpty) := by
      cases first <;> rfl
    simp only [Search.isPlain, stages, List.all_cons, happend]
    rw [← Bool.and_assoc, Bool.and_comm second.isEmpty]

end Search

/-! ## Ranking -/

namespace Search

/-- Searches over the same properties fail alike where they count hits. -/
theorem countHits_eq_error_iff {s t : Search} (h : s.own.accessors = t.own.accessors)
    {item : Value} {fault : Fault} :
    (s.countHits item).result = .error fault ↔ (t.countHits item).result = .error fault := by
  rw [(s.makesReads_countHits item).eq_error_iff, (t.makesReads_countHits item).eq_error_iff, h]

end Search

/-! ## Calls -/

/-- Calls on a search over another search, and the same calls behind those of the other one, with
the properties and the settings of the other one taken over. Either both fail with the same fault,
or the two yield alike. The hits that they give differ by the hits of the other search, which are
those of its calls. -/
theorem Search.nesting_is_chaining {selectors : List Selector} {comparison placement : Value}
    {stage : Stage} {below : List Stage} {first second : List Call} {inner : Search}
    (hstage : Stage.ofSelectors selectors comparison placement = .ok stage)
    (hinner : ((⟨stage, below⟩ : Search).callAll first).result = .ok inner) :
    ∃ begun, Stage.ofSelectors selectors (.text inner.own.comparison.label)
        (.text inner.own.placement.label) = .ok begun ∧
      match second.findSome? Call.fault? with
      | some fault =>
        ((inner.narrow begun).callAll second).result = .error fault ∧
        ((⟨stage, below⟩ : Search).callAll (first ++ second)).result = .error fault
      | none => ∃ outer chain,
        ((inner.narrow begun).callAll second).result = .ok outer ∧
        ((⟨stage, below⟩ : Search).callAll (first ++ second)).result = .ok chain ∧
        outer.YieldsAlike chain ∧
        ∀ item,
          (∀ fault, (outer.countHits item).result = .error fault ↔
            (chain.countHits item).result = .error fault) ∧
          (stage.Readable item → ∃ m n,
            m = Call.totalHits stage.comparison stage.placement (stage.texts item) first ∧
            (inner.countHits item).result = .ok m ∧ (outer.countHits item).result = .ok n ∧
            (chain.countHits item).result = .ok (n + m)) := by
  obtain ⟨-, -, -, -, hconditions⟩ := Stage.ofSelectors_eq_ok_iff.mp hstage
  obtain ⟨hfirst, rfl⟩ := callAll_result_eq_ok_iff.mp hinner
  refine ⟨_, Stage.ofSelectors_of_label hstage _ _, ?_⟩
  rw [callAll_result, callAll_result, List.findSome?_append,
    List.findSome?_eq_none_iff.mpr hfirst, Option.none_or]
  cases second.findSome? Call.fault? with
  | some fault => exact ⟨rfl, rfl⟩
  | none =>
    rw [Stage.after_append]
    refine ⟨_, _, rfl, rfl, yieldsAlike_of_split, fun item => ⟨fun fault =>
      countHits_eq_error_iff (by rfl), fun hread => ?_⟩⟩
    -- all three searches read the same texts, each of them for conditions of its own
    have hhits : ∀ (own : Stage) (others : List Stage), own.accessors = stage.accessors →
        (countHits ⟨own, others⟩ item).result =
          .ok (own.conditions.map fun condition => condition.hits (stage.texts item)).sum := by
      intro own others haccessors
      have hreadable : own.Readable item := by
        rw [Stage.Readable, haccessors]
        exact hread
      have htexts : own.texts item = stage.texts item := by
        rw [Stage.texts, haccessors, Stage.texts]
      rw [← htexts]
      exact countHitsOver_of_readable hreadable
    have hchain := hhits ((stage.after first).after second) below rfl
    refine ⟨_, _, ?_, hhits _ _ rfl, hhits _ _ rfl, ?_⟩
    · rw [← Call.sum_hits_conditions, Stage.after, hconditions, List.nil_append]
    · rw [Stage.after, List.map_append, List.sum_append, Nat.add_comm] at hchain
      exact hchain

/-- A search for two conditions over a search for one that has two hits, with case ignored in
between. -/
theorem Search.nesting_is_chaining_of_london :
    ∃ inner begun outer chain,
      ((start ⟨[.named "city"], ⟨.ordinal, false⟩, .anywhere, []⟩).callAll
        [.filter .containing [.text "on"], .setComparison (.text "ordinal_ignore_case")]).result =
          .ok inner ∧
      Stage.ofSelectors [.named "city"] (.text inner.own.comparison.label)
        (.text inner.own.placement.label) = .ok begun ∧
      ((inner.narrow begun).callAll
        [.filter .startingWith [.text "l"], .filter .containing [.text "D"]]).result = .ok outer ∧
      ((start ⟨[.named "city"], ⟨.ordinal, false⟩, .anywhere, []⟩).callAll
        [.filter .containing [.text "on"], .setComparison (.text "ordinal_ignore_case"),
          .filter .startingWith [.text "l"], .filter .containing [.text "D"]]).result = .ok chain ∧
      outer.YieldsAlike chain ∧
      ∃ n, (outer.countHits (.map [("city", .text "London")])).result = .ok n ∧
        (chain.countHits (.map [("city", .text "London")])).result = .ok (n + 2) := by
  have hstage : Stage.ofSelectors [.named "city"] (.text (Comparison.label ⟨.ordinal, false⟩))
      (.text Placement.anywhere.label) =
        .ok ⟨[.named "city"], ⟨.ordinal, false⟩, .anywhere, []⟩ :=
    Stage.ofSelectors_named (by decide +kernel) _ _
  have hinner : ((start ⟨[.named "city"], ⟨.ordinal, false⟩, .anywhere, []⟩).callAll
      [.filter .containing [.text "on"], .setComparison (.text "ordinal_ignore_case")]).result =
        .ok _ :=
    callAll_result_eq_ok_iff.mpr ⟨by decide +kernel, rfl⟩
  have hsecond : [Call.filter .startingWith [.text "l"],
      .filter .containing [.text "D"]].findSome? Call.fault? = none := by decide +kernel
  have hread : (⟨[.named "city"], ⟨.ordinal, false⟩, .anywhere, []⟩ : Stage).Readable
      (.map [("city", .text "London")]) := Stage.readable_named "city" "London"
  obtain ⟨begun, hbegun, hcalls⟩ := @nesting_is_chaining _ _ _ _ _ _
    [.filter .startingWith [.text "l"], .filter .containing [.text "D"]] _ hstage hinner
  rw [hsecond] at hcalls
  obtain ⟨outer, chain, houter, hchain, halike, hhits⟩ := hcalls
  obtain ⟨m, n, hm, -, hn, hsum⟩ := (hhits _).2 hread
  have htwo : m = 2 := hm.trans (by decide +kernel)
  exact ⟨_, begun, outer, chain, hinner, hbegun, houter, hchain, halike, n, hn, htwo ▸ hsum⟩

end TermSearch
