import Mathlib.Data.List.Defs
import TermSearch.Proofs.Search.Filtering

/-!
# Matching Pair by Pair

Which comparisons a match makes, for any check. The values of the properties are held against the
terms in the order of the pairs, property by property and for each property term by term, up to the
first pair that matches. A property is read when its first pair comes up, so those behind the match
are not read at all. Matching every term goes through the properties once for each term, up to the
first term that no property matches.

A property that cannot be read ends all of this where it comes up, with nothing behind the read; if
a match comes before it, the property makes no difference.

## Main definitions

- `comparedPairs`: the pairs of properties and terms that are compared.
- `reachedProperties`: the properties that are read.
- `propertyEvents`: what holding one property against terms makes known.

## Main statements

- `comparedPairs_eq`: the pairs that are compared, property by property.
- `someMatch_of_readable`, `everyMatch_of_readable`: the evaluation where every property can be
  read.
- `someMatch_of_failing`, `everyMatch_of_failing`: the evaluation where one cannot.
- `match_goes_pair_by_pair`: all of this together.
-/

namespace TermSearch

/-! ## Pairs -/

section

variable (check : Check) (item : Value)

/-- Whether the value of a property matches a term. -/
def pairMatches (pair : Accessor × String) : Bool :=
  check (pair.1.textOf item) pair.2

/-- Whether the value of some property matches a term. -/
def termMatches (accessors : List Accessor) (term : String) : Bool :=
  accessors.any fun accessor => check (accessor.textOf item) term

/-- The pairs that are compared: all of them in order, up to the first that matches. -/
def comparedPairs (accessors : List Accessor) (terms : List String) : List (Accessor × String) :=
  upToFirst (pairMatches check item) (accessors ×ˢ terms)

/-- The properties that are read: all of them in order, up to the first whose value matches. -/
def reachedProperties (accessors : List Accessor) (terms : List String) : List Accessor :=
  upToFirst (fun accessor => terms.any (check (accessor.textOf item))) accessors

/-- What holding a property against terms makes known. The property is read, and then its value is
compared with the terms up to the first that matches. -/
def propertyEvents (terms : List String) (accessor : Accessor) : Trace :=
  (accessor.read item).trace ++ (upToFirst (check (accessor.textOf item)) terms).map fun term =>
    .compared (accessor.textOf item) term (check (accessor.textOf item) term)

variable {check item}

theorem product_cons (accessor : Accessor) (rest : List Accessor) (terms : List String) :
    (accessor :: rest) ×ˢ terms = terms.map (fun term => (accessor, term)) ++ rest ×ˢ terms := by
  simp only [SProd.sprod, List.product, List.flatMap_cons]

/-- Each property that is read is compared with the terms up to the first that matches. -/
theorem comparedPairs_eq (accessors : List Accessor) (terms : List String) :
    comparedPairs check item accessors terms =
      (reachedProperties check item accessors terms).flatMap fun accessor =>
        (upToFirst (check (accessor.textOf item)) terms).map fun term => (accessor, term) := by
  rw [comparedPairs, reachedProperties]
  induction accessors with
  | nil => rfl
  | cons accessor rest ih =>
    have hfront : upToFirst (pairMatches check item) (terms.map fun term => (accessor, term)) =
        (upToFirst (check (accessor.textOf item)) terms).map fun term => (accessor, term) :=
      upToFirst_map ..
    rw [product_cons, upToFirst]
    cases h : terms.any (check (accessor.textOf item)) with
    | true =>
      obtain ⟨term, hterm, hmatch⟩ := List.any_eq_true.mp h
      rw [upToFirst_append_of_stops ⟨_, List.mem_map_of_mem hterm, hmatch⟩, hfront, if_pos rfl,
        List.flatMap_singleton]
    | false =>
      have hnone : ∀ term ∈ terms, check (accessor.textOf item) term = false := by simpa using h
      have hall : upToFirst (check (accessor.textOf item)) terms = terms := by
        simpa [upToFirst] using upToFirst_append_of_not hnone []
      have hpairs : ∀ pair ∈ terms.map fun term => (accessor, term),
          pairMatches check item pair = false := by
        simpa [pairMatches] using hnone
      rw [upToFirst_append_of_not hpairs, ih, if_neg Bool.false_ne_true, List.flatMap_cons, hall]

/-- A pair that is compared matches if and only if there is such a pair at all. -/
theorem any_comparedPairs (accessors : List Accessor) (terms : List String) :
    (comparedPairs check item accessors terms).any (pairMatches check item) =
      accessors.any fun accessor => terms.any (check (accessor.textOf item)) := by
  rw [comparedPairs, any_upToFirst]
  induction accessors with
  | nil => rfl
  | cons accessor rest ih =>
    rw [product_cons, List.any_append, ih, List.any_map, List.any_cons]
    rfl

theorem any_comparedPairs_singleton (accessors : List Accessor) (term : String) :
    (comparedPairs check item accessors [term]).any (pairMatches check item) =
      termMatches check item accessors term := by
  rw [any_comparedPairs, termMatches]
  simp only [List.any_cons, List.any_nil, Bool.or_false]

/-- Reading a property compares nothing. -/
theorem comparisons_read (accessor : Accessor) (item : Value) :
    Trace.comparisons (accessor.read item).trace = [] := by
  induction accessor with
  | named name => rfl
  | computed extractor => rfl
  | wrapped inner ih => exact ih

theorem comparisons_propertyEvents (terms : List String) (accessor : Accessor) :
    Trace.comparisons (propertyEvents check item terms accessor) =
      (upToFirst (check (accessor.textOf item)) terms).map fun term =>
        (accessor.textOf item, term, check (accessor.textOf item) term) := by
  rw [propertyEvents, Trace.comparisons_append, comparisons_read, List.nil_append,
    Trace.comparisons, List.filterMap_map]
  exact congrFun List.filterMap_eq_map _

end

/-! ## Matching some term -/

section

variable {check : Check} {accessors : List Accessor} {item : Value}

theorem propertyMatch_of_ok {accessor : Accessor} {value : Option String}
    (h : (accessor.read item).result = .ok value) (terms : List String) :
    propertyMatch check terms accessor item =
      ⟨propertyEvents check item terms accessor,
        .ok (terms.any (check (accessor.textOf item)))⟩ := by
  have htext : accessor.textOf item = value := by
    rw [Accessor.textOf, h]
    rfl
  rw [propertyMatch_eq, propertyEvents, h, htext]
  rfl

theorem propertyMatch_of_error {accessor : Accessor} {fault : Fault}
    (h : (accessor.read item).result = .error fault) (terms : List String) :
    propertyMatch check terms accessor item = ⟨(accessor.read item).trace, .error fault⟩ := by
  rw [propertyMatch_eq, h, List.append_nil]
  rfl

/-- Where every property can be read, they are read up to the first that matches, and each one is
compared with the terms before the next one is read. -/
theorem someMatch_of_readable
    (h : ∀ accessor ∈ accessors, ∃ value, (accessor.read item).result = .ok value)
    (terms : List String) :
    someMatch check accessors terms item =
      ⟨(reachedProperties check item accessors terms).flatMap (propertyEvents check item terms),
        .ok ((comparedPairs check item accessors terms).any (pairMatches check item))⟩ := by
  have hproperty : ∀ accessor ∈ accessors, propertyMatch check terms accessor item =
      ⟨propertyEvents check item terms accessor,
        .ok (terms.any (check (accessor.textOf item)))⟩ := fun accessor hmem =>
    (h accessor hmem).elim fun _ hvalue => propertyMatch_of_ok hvalue terms
  have hstops : ∀ accessor ∈ accessors,
      (!Verdict.isNo (propertyMatch check terms accessor item).result) =
        terms.any (check (accessor.textOf item)) := by
    intro accessor hmem
    rw [hproperty accessor hmem, Verdict.isNo_ok, Bool.not_not]
  have hverdicts :
      accessors.map (fun accessor => (propertyMatch check terms accessor item).result) =
        accessors.map fun accessor => .ok (terms.any (check (accessor.textOf item))) :=
    List.map_congr_left fun accessor hmem => by rw [hproperty accessor hmem]
  rw [someMatch, anyOf_eq, upToFirst_map, upToFirst_congr hstops, List.flatMap_map, List.map_map,
    any_comparedPairs]
  refine Traced.ext (List.flatMap_congr fun accessor hmem => ?_) ?_
  · rw [hproperty accessor (mem_of_mem_upToFirst hmem)]
  · exact (congrArg Verdict.any hverdicts).trans (Verdict.any_map_ok _ _)

/-- A property that cannot be read ends the matching, unless one before it matches. -/
theorem someMatch_of_failing {before after : List Accessor} {failing : Accessor} {fault : Fault}
    (h : ∀ accessor ∈ before, ∃ value, (accessor.read item).result = .ok value)
    (hfault : (failing.read item).result = .error fault) (terms : List String) :
    someMatch check (before ++ failing :: after) terms item =
      if (comparedPairs check item before terms).any (pairMatches check item) then
        someMatch check before terms item
      else
        ⟨(someMatch check before terms item).trace ++ (failing.read item).trace,
          .error fault⟩ := by
  have hbefore := @someMatch_of_readable check before item h terms
  have hrest : someMatch check (failing :: after) terms item =
      ⟨(failing.read item).trace, .error fault⟩ := by
    rw [someMatch, List.map_cons, anyOf, propertyMatch_of_error hfault,
      Traced.bind_of_result_error rfl]
  rw [someMatch, List.map_append, anyOf_append]
  change (someMatch check before terms item >>= fun holds =>
    if holds then pure true else someMatch check (failing :: after) terms item) = _
  rw [Traced.bind_of_result_ok (congrArg Traced.result hbefore), hrest]
  split
  · next hmatch => rw [hbefore, hmatch]; simp
  · rfl

/-- What is compared are the values and terms of the pairs, in their order. -/
theorem comparisons_someMatch
    (h : ∀ accessor ∈ accessors, ∃ value, (accessor.read item).result = .ok value)
    (terms : List String) :
    Trace.comparisons (someMatch check accessors terms item).trace =
      (comparedPairs check item accessors terms).map fun pair =>
        (pair.1.textOf item, pair.2, pairMatches check item pair) := by
  rw [someMatch_of_readable h, comparedPairs_eq, List.map_flatMap, Trace.comparisons,
    List.filterMap_flatMap]
  refine List.flatMap_congr fun accessor _ => ?_
  rw [List.map_map]
  exact comparisons_propertyEvents terms accessor

end

/-! ## Matching every term -/

section

variable {check : Check} {accessors : List Accessor} {item : Value}

/-- The terms are tried one by one, up to the first that is not matched. -/
theorem everyMatch_eq {holds : String → Bool}
    (h : ∀ term, Verdict.isYes (someMatch check accessors [term] item).result = holds term)
    (terms : List String) :
    everyMatch check accessors terms item =
      ⟨(upToFirst (fun term => !holds term) terms).flatMap fun term =>
          (someMatch check accessors [term] item).trace,
        Verdict.every (terms.map fun term => (someMatch check accessors [term] item).result)⟩ := by
  rw [everyMatch, allOf_eq, upToFirst_map, List.flatMap_map, List.map_map]
  simp only [h]
  rfl

/-- Where every property can be read, the terms are tried up to the first that no property
matches. -/
theorem everyMatch_of_readable
    (h : ∀ accessor ∈ accessors, ∃ value, (accessor.read item).result = .ok value)
    (terms : List String) :
    everyMatch check accessors terms item =
      ⟨(upToFirst (fun term => !termMatches check item accessors term) terms).flatMap fun term =>
          (someMatch check accessors [term] item).trace,
        .ok (terms.all (termMatches check item accessors))⟩ := by
  have hterm : ∀ term, (someMatch check accessors [term] item).result =
      .ok (termMatches check item accessors term) := by
    intro term
    rw [someMatch_of_readable h, any_comparedPairs_singleton]
  rw [everyMatch_eq fun term => (congrArg Verdict.isYes (hterm term)).trans (Verdict.isYes_ok _)]
  simp only [hterm, Verdict.every_map_ok]

/-- A property that cannot be read ends the matching at the first term that none before it
matches. -/
theorem everyMatch_of_failing {before after : List Accessor} {failing : Accessor} {fault : Fault}
    (h : ∀ accessor ∈ before, ∃ value, (accessor.read item).result = .ok value)
    (hfault : (failing.read item).result = .error fault) (terms : List String) :
    everyMatch check (before ++ failing :: after) terms item =
      ⟨(upToFirst (fun term => !termMatches check item before term) terms).flatMap fun term =>
          (someMatch check (before ++ failing :: after) [term] item).trace,
        if terms.all (termMatches check item before) then .ok true else .error fault⟩ := by
  have hterm : ∀ term, (someMatch check (before ++ failing :: after) [term] item).result =
      if termMatches check item before term then .ok true else .error fault := by
    intro term
    rw [someMatch_of_failing h hfault, any_comparedPairs_singleton]
    split
    · next hmatch => rw [someMatch_of_readable h, any_comparedPairs_singleton, hmatch]
    · rfl
  have hyes : ∀ term,
      Verdict.isYes (someMatch check (before ++ failing :: after) [term] item).result =
        termMatches check item before term := by
    intro term
    rw [hterm]
    cases termMatches check item before term <;> rfl
  rw [everyMatch_eq hyes]
  refine Traced.ext rfl ?_
  show Verdict.every (terms.map _) = _
  simp only [hterm]
  -- the first term that no property before matches decides
  induction terms with
  | nil => rfl
  | cons term rest ih =>
    rw [List.map_cons, List.all_cons]
    cases termMatches check item before term with
    | true => rw [if_pos rfl, Verdict.every_cons_of_isYes rfl, ih, Bool.true_and]
    | false => rw [if_neg Bool.false_ne_true, Verdict.every_cons_of_not_isYes rfl]; rfl

end

/-! ## All of this together -/

section

variable (check : Check) (item : Value) (terms : List String)

/-- For any check, matching goes pair by pair, property first and then term.

Where every property can be read, some match compares the values and terms of the pairs in order, up
to the first pair that matches, and holds if there is one. It reads the properties up to the last
one that comes up, each of them once and before its comparisons. Matching every term makes known
what the match of each term does, up to the first term that is not matched, and holds if there is no
such term; so it reads every property at most once for a term.

Where a property cannot be read, the same is made known up to the read of it, which is the last. -/
theorem match_goes_pair_by_pair :
    (∀ accessors : List Accessor,
      (∀ accessor ∈ accessors, ∃ value, (accessor.read item).result = .ok value) →
      someMatch check accessors terms item =
          ⟨(reachedProperties check item accessors terms).flatMap (propertyEvents check item terms),
            .ok ((comparedPairs check item accessors terms).any (pairMatches check item))⟩ ∧
        Trace.comparisons (someMatch check accessors terms item).trace =
          (comparedPairs check item accessors terms).map (fun pair =>
            (pair.1.textOf item, pair.2, pairMatches check item pair)) ∧
        comparedPairs check item accessors terms <+: accessors ×ˢ terms ∧
        everyMatch check accessors terms item =
          ⟨(upToFirst (fun term => !termMatches check item accessors term) terms).flatMap
              fun term => (someMatch check accessors [term] item).trace,
            .ok (terms.all (termMatches check item accessors))⟩ ∧
        ∀ tried, reachedProperties check item accessors tried <+: accessors) ∧
    ∀ (before : List Accessor) (failing : Accessor) (after : List Accessor) (fault : Fault),
      (∀ accessor ∈ before, ∃ value, (accessor.read item).result = .ok value) →
      (failing.read item).result = .error fault →
      someMatch check (before ++ failing :: after) terms item =
          (if (comparedPairs check item before terms).any (pairMatches check item) then
            someMatch check before terms item
          else
            ⟨(someMatch check before terms item).trace ++ (failing.read item).trace,
              .error fault⟩) ∧
        everyMatch check (before ++ failing :: after) terms item =
          ⟨(upToFirst (fun term => !termMatches check item before term) terms).flatMap fun term =>
              (someMatch check (before ++ failing :: after) [term] item).trace,
            if terms.all (termMatches check item before) then .ok true else .error fault⟩ :=
  ⟨fun _ h => ⟨someMatch_of_readable h terms, comparisons_someMatch h terms,
      upToFirst_prefix _ _, everyMatch_of_readable h terms, fun _ => upToFirst_prefix _ _⟩,
    fun _ _ _ _ h hfault =>
      ⟨someMatch_of_failing h hfault terms, everyMatch_of_failing h hfault terms⟩⟩

end

/-- The match of the second property with the second term is the last thing that is known, and a
property that fails behind the first one ends the search for a term that this one does not match. -/
theorem match_goes_pair_by_pair_to_name :
    someMatch (fun value term => value == some term)
        [.computed (.constant "city" (.text "Bath")), .computed (.constant "name" (.text "Ann")),
          .computed (.constant "email" .null)] ["Ben", "Ann"] .null =
      ⟨[.read "city" .null, .compared (some "Bath") "Ben" false,
          .compared (some "Bath") "Ann" false,
          .read "name" .null, .compared (some "Ann") "Ben" false,
          .compared (some "Ann") "Ann" true], .ok true⟩ ∧
      (everyMatch (fun value term => value == some term)
        [.computed (.constant "city" (.text "Bath")),
          .computed (.failing "name" (.missingKey "name")), .computed (.constant "email" .null)]
        ["Bath", "Ann"] .null).result = .error (.failed (.missingKey "name")) := by
  have hread : ∀ accessor ∈ [Accessor.computed (.constant "city" (.text "Bath")),
      .computed (.constant "name" (.text "Ann")), .computed (.constant "email" .null)],
      ∃ value, (accessor.read .null).result = .ok value := by
    intro accessor hmem
    simp only [List.mem_cons, List.not_mem_nil, or_false] at hmem
    rcases hmem with rfl | rfl | rfl
    exacts [⟨some "Bath", rfl⟩, ⟨some "Ann", rfl⟩, ⟨none, rfl⟩]
  have hbefore : ∀ accessor ∈ [Accessor.computed (.constant "city" (.text "Bath"))],
      ∃ value, (accessor.read .null).result = .ok value :=
    fun accessor hmem => hread accessor (List.mem_of_mem_take (i := 1) hmem)
  exact ⟨((match_goes_pair_by_pair _ .null ["Ben", "Ann"]).1 _ hread).1.trans rfl,
    (congrArg Traced.result ((match_goes_pair_by_pair _ .null ["Bath", "Ann"]).2 _ _ _ _ hbefore
      rfl).2).trans rfl⟩

end TermSearch
