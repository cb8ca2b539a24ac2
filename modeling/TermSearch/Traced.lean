import TermSearch.Fault

/-!
# Traced Computations

Computations that record events as they go and may end in a fault. A fault ends the
computation and keeps the events recorded before it, so the record tells what was done and
in which order, also where the result is a fault.

## Main statements

- `Traced.bind_of_result_ok`, `Traced.bind_of_result_error`: what two computations in a row
  record and result in.
- `Traced.result_bind_eq_error_iff`: two computations in a row come to the fault of the first
  that ends in one.
- The monad laws, as an instance of `LawfulMonad`.
-/

namespace TermSearch

/-- The events of a computation and its result. -/
structure Traced (ε α : Type) where
  trace : List ε
  result : Except Fault α

namespace Traced

variable {ε α β : Type}

/-- The computation that records nothing and ends in a fault. -/
def fail (fault : Fault) : Traced ε α :=
  ⟨[], .error fault⟩

/-- The computation that records one event. -/
def record (event : ε) : Traced ε Unit :=
  ⟨[event], .ok ()⟩

/-- The computation that records nothing and has the given result. -/
def ofExcept (result : Except Fault α) : Traced ε α :=
  ⟨[], result⟩

/-- The computation with another result in place of its own. -/
def mapResult (f : Except Fault α → Except Fault β) (x : Traced ε α) : Traced ε β :=
  ⟨x.trace, f x.result⟩

/-- A computation followed by one that depends on its result. -/
def andThen (x : Traced ε α) (f : α → Traced ε β) : Traced ε β :=
  match x.result with
  | .ok a =>
    let y := f a
    ⟨x.trace ++ y.trace, y.result⟩
  | .error fault => ⟨x.trace, .error fault⟩

instance : Monad (Traced ε) where
  pure a := ⟨[], .ok a⟩
  bind := andThen

@[ext] theorem ext {x y : Traced ε α} (ht : x.trace = y.trace) (hr : x.result = y.result) :
    x = y := by
  cases x; cases y; simp_all

@[simp] theorem trace_pure (a : α) : (pure a : Traced ε α).trace = [] := rfl

@[simp] theorem result_pure (a : α) : (pure a : Traced ε α).result = .ok a := rfl

@[simp] theorem trace_record (event : ε) : (record event).trace = [event] := rfl

@[simp] theorem result_record (event : ε) : (record event).result = .ok () := rfl

@[simp] theorem trace_ofExcept (result : Except Fault α) :
    (ofExcept result : Traced ε α).trace = [] := rfl

@[simp] theorem result_ofExcept (result : Except Fault α) :
    (ofExcept result : Traced ε α).result = result := rfl

@[simp] theorem trace_mapResult (f : Except Fault α → Except Fault β) (x : Traced ε α) :
    (x.mapResult f).trace = x.trace := rfl

@[simp] theorem result_mapResult (f : Except Fault α → Except Fault β) (x : Traced ε α) :
    (x.mapResult f).result = f x.result := rfl

/-- After a success, the second computation runs on. -/
theorem bind_of_result_ok {x : Traced ε α} {a : α} (h : x.result = .ok a)
    (f : α → Traced ε β) : x >>= f = ⟨x.trace ++ (f a).trace, (f a).result⟩ := by
  show andThen x f = _
  simp [andThen, h]

/-- After a fault, the second computation does not run. -/
theorem bind_of_result_error {x : Traced ε α} {fault : Fault} (h : x.result = .error fault)
    (f : α → Traced ε β) : x >>= f = ⟨x.trace, .error fault⟩ := by
  show andThen x f = _
  simp [andThen, h]

/-- Applying a function to the result leaves the trace. -/
@[simp] theorem trace_map (f : α → β) (x : Traced ε α) : (f <$> x).trace = x.trace := by
  show (andThen x (pure ∘ f)).trace = _
  cases h : x.result <;> simp [andThen, h]

@[simp] theorem result_map (f : α → β) (x : Traced ε α) :
    (f <$> x).result = x.result.map f := by
  show (andThen x (pure ∘ f)).result = _
  cases h : x.result <;> simp [andThen, h, Except.map]

/-- Two computations in a row come to a fault if the first of them does, or else the second. -/
theorem result_bind_eq_error_iff {x : Traced ε α} {f : α → Traced ε β} {fault : Fault} :
    (x >>= f).result = .error fault ↔
      x.result = .error fault ∨ ∃ a, x.result = .ok a ∧ (f a).result = .error fault := by
  cases h : x.result with
  | error cause => simp [bind_of_result_error h]
  | ok a => simp [bind_of_result_ok h]

/-- Two computations in a row succeed where the first of them does, and then the second. -/
theorem result_bind_eq_ok_iff {x : Traced ε α} {f : α → Traced ε β} {b : β} :
    (x >>= f).result = .ok b ↔ ∃ a, x.result = .ok a ∧ (f a).result = .ok b := by
  cases h : x.result with
  | error cause => simp [bind_of_result_error h]
  | ok a => simp [bind_of_result_ok h]

/-- A computation followed by nothing else is the computation itself. -/
private theorem andThen_pure (x : Traced ε α) : andThen x pure = x := by
  obtain ⟨trace, result⟩ := x
  cases result <;> simp [andThen]

/-- A first computation that does nothing leaves the second one. -/
private theorem pure_andThen (a : α) (f : α → Traced ε β) : andThen (pure a) f = f a := by
  simp [andThen]

/-- Three computations in a row may be grouped either way. -/
private theorem andThen_assoc {γ : Type} (x : Traced ε α) (f : α → Traced ε β)
    (g : β → Traced ε γ) : andThen (andThen x f) g = andThen x fun a => andThen (f a) g := by
  obtain ⟨trace, result⟩ := x
  cases result with
  | error fault => simp [andThen]
  | ok a =>
    simp only [andThen]
    cases h : (f a).result <;> simp

instance : LawfulMonad (Traced ε) :=
  LawfulMonad.mk' (Traced ε) andThen_pure pure_andThen andThen_assoc

end Traced

end TermSearch
