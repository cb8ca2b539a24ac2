import TermSearch.Predicate

/-!
# Evaluation from Left to Right

What the combinators of predicates come to and what they make known, said without going through
the evaluation: the verdict is the first one that decides, and the trace is made of the traces
of the parts up to that one.

## Main definitions

- `upToFirst`: the part of a list that an evaluation goes through.
- `Verdict.any`, `Verdict.every`: the verdict on a disjunction and on a conjunction.

## Main statements

- `anyOf_eq`, `allOf_eq`: the two combinators.
- `anyOf_append`, `allOf_append`: the same for parts in a row.
- `matchTerms_eq`, `propertyMatch_eq`: a value, and a property, against terms.
-/

namespace TermSearch

/-! ## The part of a list that is gone through -/

/-- The elements up to the first one that stops, which is the last of them. -/
def upToFirst {α : Type} (stops : α → Bool) : List α → List α
  | [] => []
  | a :: rest => if stops a then [a] else a :: upToFirst stops rest

section

variable {α : Type} {stops : α → Bool}

theorem upToFirst_cons_of_stops {a : α} (h : stops a = true) (rest : List α) :
    upToFirst stops (a :: rest) = [a] := by
  simp [upToFirst, h]

theorem upToFirst_cons_of_not {a : α} (h : stops a = false) (rest : List α) :
    upToFirst stops (a :: rest) = a :: upToFirst stops rest := by
  simp [upToFirst, h]

/-- What is gone through comes first in the list, in its order. -/
theorem upToFirst_prefix (stops : α → Bool) (l : List α) : upToFirst stops l <+: l := by
  induction l with
  | nil => exact List.prefix_rfl
  | cons a rest ih =>
    cases h : stops a with
    | true =>
      rw [upToFirst_cons_of_stops h]
      exact ⟨rest, rfl⟩
    | false =>
      rw [upToFirst_cons_of_not h]
      exact (List.prefix_cons_inj a).mpr ih

theorem mem_of_mem_upToFirst {a : α} {l : List α} (h : a ∈ upToFirst stops l) : a ∈ l :=
  List.IsPrefix.subset ( upToFirst_prefix stops l) h

/-- Where nothing in front stops, what is behind is gone through as well. -/
theorem upToFirst_append_of_not {front : List α} (h : ∀ a ∈ front, stops a = false)
    (behind : List α) : upToFirst stops (front ++ behind) = front ++ upToFirst stops behind := by
  induction front with
  | nil => rfl
  | cons a rest ih =>
    rw [List.cons_append, upToFirst_cons_of_not (h a List.mem_cons_self),
      ih fun b hb => h b (List.mem_cons_of_mem a hb), List.cons_append]

/-- Where something in front stops, nothing behind is gone through. -/
theorem upToFirst_append_of_stops {front : List α} (h : ∃ a ∈ front, stops a = true)
    (behind : List α) : upToFirst stops (front ++ behind) = upToFirst stops front := by
  induction front with
  | nil => simp at h
  | cons a rest ih =>
    cases hstops : stops a with
    | true => rw [List.cons_append, upToFirst_cons_of_stops hstops, upToFirst_cons_of_stops hstops]
    | false =>
      have hrest : ∃ b ∈ rest, stops b = true := by simpa [hstops] using h
      rw [List.cons_append, upToFirst_cons_of_not hstops, upToFirst_cons_of_not hstops, ih hrest]

/-- Something is gone through that stops if and only if there is such a thing at all. -/
theorem any_upToFirst (stops : α → Bool) (l : List α) :
    (upToFirst stops l).any stops = l.any stops := by
  induction l with
  | nil => rfl
  | cons a rest ih => cases h : stops a <;> simp [upToFirst, h, ih]

theorem upToFirst_congr {stops' : α → Bool} {l : List α} (h : ∀ a ∈ l, stops a = stops' a) :
    upToFirst stops l = upToFirst stops' l := by
  induction l with
  | nil => rfl
  | cons a rest ih =>
    obtain ⟨ha, hrest⟩ := List.forall_mem_cons.mp h
    rw [upToFirst, upToFirst, ha, ih hrest]

theorem upToFirst_map {β : Type} (stops : β → Bool) (f : α → β) (l : List α) :
    upToFirst stops (l.map f) = (upToFirst (fun a => stops (f a)) l).map f := by
  induction l with
  | nil => rfl
  | cons a rest ih =>
    rw [List.map_cons, upToFirst, upToFirst, ih]
    split <;> rfl

end

/-! ## Verdicts -/

/-- What an evaluation comes to: yes, no, or the fault that ended it. -/
abbrev Verdict := Except Fault Bool

namespace Verdict

/-- Whether an evaluation came to a yes. -/
def isYes : Verdict → Bool
  | .ok true => true
  | _ => false

/-- Whether an evaluation came to a no. -/
def isNo : Verdict → Bool
  | .ok false => true
  | _ => false

@[simp] theorem isYes_ok (b : Bool) : isYes (.ok b) = b := by cases b <;> rfl

@[simp] theorem isNo_ok (b : Bool) : isNo (.ok b) = !b := by cases b <;> rfl

@[simp] theorem isYes_error (fault : Fault) : isYes (.error fault) = false := rfl

@[simp] theorem isNo_error (fault : Fault) : isNo (.error fault) = false := rfl

theorem isYes_eq_true_iff {v : Verdict} : isYes v = true ↔ v = .ok true := by
  rcases v with fault | _ | _ <;> simp

/-- The verdict on a disjunction: the first one that is not a no. -/
def any (verdicts : List Verdict) : Verdict :=
  (verdicts.find? fun v => !isNo v).getD (.ok false)

/-- The verdict on a conjunction: the first one that is not a yes. -/
def every (verdicts : List Verdict) : Verdict :=
  (verdicts.find? fun v => !isYes v).getD (.ok true)

theorem any_cons_of_isNo {v : Verdict} (h : isNo v = true) (rest : List Verdict) :
    any (v :: rest) = any rest := by
  simp [any, h]

theorem any_cons_of_not_isNo {v : Verdict} (h : isNo v = false) (rest : List Verdict) :
    any (v :: rest) = v := by
  simp [any, h]

theorem every_cons_of_isYes {v : Verdict} (h : isYes v = true) (rest : List Verdict) :
    every (v :: rest) = every rest := by
  simp [every, h]

theorem every_cons_of_not_isYes {v : Verdict} (h : isYes v = false) (rest : List Verdict) :
    every (v :: rest) = v := by
  simp [every, h]

/-- A disjunction ends in a fault where a part that is evaluated does. -/
theorem any_map_eq_error_iff {α : Type} {f : α → Verdict} {l : List α} {fault : Fault} :
    any (l.map f) = .error fault ↔
      ∃ a ∈ upToFirst (fun a => !isNo (f a)) l, f a = .error fault := by
  induction l with
  | nil => simp [any, upToFirst]
  | cons a rest ih =>
    rw [List.map_cons]
    cases h : isNo (f a) with
    | true =>
      have hne : f a ≠ .error fault := fun heq => by simp [heq] at h
      rw [any_cons_of_isNo h, upToFirst_cons_of_not (by simp [h]), ih]
      simp [hne]
    | false =>
      rw [any_cons_of_not_isNo h, upToFirst_cons_of_stops (by simp [h])]
      simp

/-- A conjunction ends in a fault where a part that is evaluated does. -/
theorem every_map_eq_error_iff {α : Type} {f : α → Verdict} {l : List α} {fault : Fault} :
    every (l.map f) = .error fault ↔
      ∃ a ∈ upToFirst (fun a => !isYes (f a)) l, f a = .error fault := by
  induction l with
  | nil => simp [every, upToFirst]
  | cons a rest ih =>
    rw [List.map_cons]
    cases h : isYes (f a) with
    | true =>
      have hne : f a ≠ .error fault := fun heq => by simp [heq] at h
      rw [every_cons_of_isYes h, upToFirst_cons_of_not (by simp [h]), ih]
      simp [hne]
    | false =>
      rw [every_cons_of_not_isYes h, upToFirst_cons_of_stops (by simp [h])]
      simp

/-- Where no part ends in a fault, the verdict on a disjunction is the disjunction. -/
theorem any_map_ok {α : Type} (holds : α → Bool) (l : List α) :
    any (l.map fun a => .ok (holds a)) = .ok (l.any holds) := by
  induction l with
  | nil => rfl
  | cons a rest ih =>
    rw [List.map_cons, List.any_cons]
    cases h : holds a with
    | true => rw [any_cons_of_not_isNo (by simp)]; rfl
    | false => rw [any_cons_of_isNo (by simp), ih]; rfl

/-- Where no part ends in a fault, the verdict on a conjunction is the conjunction. -/
theorem every_map_ok {α : Type} (holds : α → Bool) (l : List α) :
    every (l.map fun a => .ok (holds a)) = .ok (l.all holds) := by
  induction l with
  | nil => rfl
  | cons a rest ih =>
    rw [List.map_cons, List.all_cons]
    cases h : holds a with
    | true => rw [every_cons_of_isYes (by simp), ih]; rfl
    | false => rw [every_cons_of_not_isYes (by simp)]; rfl

/-- The verdict on a conjunction is a yes where the verdicts on all parts are. -/
theorem every_map_eq_ok_true_iff {α : Type} {f : α → Verdict} {l : List α} :
    every (l.map f) = .ok true ↔ ∀ a ∈ l, f a = .ok true := by
  induction l with
  | nil => simp [every]
  | cons a rest ih =>
    rw [List.map_cons, List.forall_mem_cons]
    rcases h : f a with fault | _ | _
    · rw [every_cons_of_not_isYes (by simp)]
      simp
    · rw [every_cons_of_not_isYes (by simp)]
      simp
    · rw [every_cons_of_isYes (by simp), ih]
      simp

end Verdict

/-! ## The combinators -/

section

variable {ε α : Type}

/-- A disjunction comes to the first verdict that is not a no, and evaluates no part behind. -/
theorem anyOf_eq (predicates : List (Predicate ε α)) (a : α) :
    anyOf predicates a =
      ⟨(upToFirst (fun p => !Verdict.isNo (p a).result) predicates).flatMap fun p => (p a).trace,
        Verdict.any (predicates.map fun p => (p a).result)⟩ := by
  induction predicates with
  | nil => rfl
  | cons p rest ih =>
    rw [anyOf, List.map_cons]
    rcases h : (p a).result with fault | _ | _
    · rw [Traced.bind_of_result_error h, upToFirst_cons_of_stops (by simp [h]),
        Verdict.any_cons_of_not_isNo (by simp)]
      simp
    · rw [Traced.bind_of_result_ok h, upToFirst_cons_of_not (by simp [h]),
        Verdict.any_cons_of_isNo (by simp)]
      simp [ih]
    · rw [Traced.bind_of_result_ok h, upToFirst_cons_of_stops (by simp [h]),
        Verdict.any_cons_of_not_isNo (by simp)]
      simp

/-- A conjunction comes to the first verdict that is not a yes, and evaluates no part behind. -/
theorem allOf_eq (predicates : List (Predicate ε α)) (a : α) :
    allOf predicates a =
      ⟨(upToFirst (fun p => !Verdict.isYes (p a).result) predicates).flatMap fun p => (p a).trace,
        Verdict.every (predicates.map fun p => (p a).result)⟩ := by
  induction predicates with
  | nil => rfl
  | cons p rest ih =>
    rw [allOf, List.map_cons]
    rcases h : (p a).result with fault | _ | _
    · rw [Traced.bind_of_result_error h, upToFirst_cons_of_stops (by simp [h]),
        Verdict.every_cons_of_not_isYes (by simp)]
      simp
    · rw [Traced.bind_of_result_ok h, upToFirst_cons_of_stops (by simp [h]),
        Verdict.every_cons_of_not_isYes (by simp)]
      simp
    · rw [Traced.bind_of_result_ok h, upToFirst_cons_of_not (by simp [h]),
        Verdict.every_cons_of_isYes (by simp)]
      simp [ih]

/-- A disjunction goes through some parts first, and through the others where none of these
holds. -/
theorem anyOf_append (first others : List (Predicate ε α)) (a : α) :
    anyOf (first ++ others) a =
      anyOf first a >>= fun holds => if holds then pure true else anyOf others a := by
  induction first with
  | nil => simp [anyOf]
  | cons p rest ih =>
    rw [List.cons_append, anyOf, anyOf, bind_assoc]
    congr 1
    funext holds
    -- a part that holds ends both sides at once
    cases holds with
    | true => simp
    | false => simpa using ih

/-- A conjunction goes through some parts first, and through the others where these hold. -/
theorem allOf_append (first others : List (Predicate ε α)) (a : α) :
    allOf (first ++ others) a =
      allOf first a >>= fun holds => if holds then allOf others a else pure false := by
  induction first with
  | nil => simp [allOf]
  | cons p rest ih =>
    rw [List.cons_append, allOf, allOf, bind_assoc]
    congr 1
    funext holds
    -- a part that does not hold ends both sides at once
    cases holds with
    | false => simp
    | true => simpa using ih

/-- A conjunction of one part is that part. -/
theorem allOf_singleton (p : Predicate ε α) (a : α) : allOf [p] a = p a := by
  rw [allOf_eq]
  rcases h : (p a).result with fault | _ | _ <;>
    exact Traced.ext (by simp [upToFirst]) (by simp [Verdict.every, h])

end

/-! ## Values and properties against terms -/

/-- A value is held against the terms up to the first that matches. -/
theorem matchTerms_eq (check : Check) (value : Option String) (terms : List String) :
    matchTerms check value terms =
      ⟨(upToFirst (check value) terms).map fun term => .compared value term (check value term),
        .ok (terms.any (check value))⟩ := by
  induction terms with
  | nil => rfl
  | cons term rest ih =>
    rw [matchTerms, Traced.bind_of_result_ok (Traced.result_record _)]
    cases h : check value term with
    | true => rw [upToFirst_cons_of_stops h]; simp [h]
    | false => rw [upToFirst_cons_of_not h]; simp [h, ih]

/-- A property is read once, and then its value is held against the terms. -/
theorem propertyMatch_eq (check : Check) (terms : List String) (accessor : Accessor)
    (item : Value) :
    propertyMatch check terms accessor item =
      ⟨(accessor.read item).trace ++
          match (accessor.read item).result with
          | .ok value =>
            (upToFirst (check value) terms).map fun term =>
              .compared value term (check value term)
          | .error _ => [],
        (accessor.read item).result.map fun value => terms.any (check value)⟩ := by
  rw [propertyMatch]
  cases h : (accessor.read item).result with
  | error fault => rw [Traced.bind_of_result_error h]; simp [Except.map]
  | ok value => rw [Traced.bind_of_result_ok h, matchTerms_eq]; simp [Except.map]

end TermSearch
