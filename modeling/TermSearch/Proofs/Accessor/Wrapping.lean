import TermSearch.Proofs.Accessor
import TermSearch.Proofs.Selector

/-!
# Wrapped Accessors

An accessor can be built from an accessor, any number of times. A wrapper reads through what it is
built from and settles once more what that has settled already, so it adds nothing: it has the same
results, ends in the same faults, and asks the same extractors. The faults name the property that is
read in the end, not the wrapper.

## Main definitions

- `Accessor.innermost`: the accessor that is read through in the end.
- `Selector.wrap`: a choice that is wrapped some number of times.

## Main statements

- `Accessor.read_innermost`: reading through wrappers is reading the innermost accessor.
- `Accessor.property?_of_read_eq_error`: the property that a fault names.
- `Selector.innermost_resolve_of_wrap`: a wrapped choice stands for the same innermost accessor.
-/

namespace TermSearch

/-- The property that a fault names. -/
def Fault.property? : Fault → Option String
  | unreadable property _ | propertyNotText property _ => some property
  | _ => none

namespace Accessor

/-- The accessor that is read through in the end. -/
def innermost : Accessor → Accessor
  | wrapped inner => inner.innermost
  | accessor => accessor

/-! ## Settling -/

/-- What lacks an attribute is put down to the property, once it is settled. -/
theorem settle_ne_missingAttribute (label : String) (found : Except Fault Reached)
    (reason : String) : settle label found ≠ .error (.failed (.missingAttribute reason)) := by
  unfold settle
  split <;> simp_all

/-- What a read comes to is put down to the property, if an attribute is lacking. -/
theorem read_result_ne_missingAttribute (accessor : Accessor) (item : Value) (reason : String) :
    (accessor.read item).result ≠ .error (.failed (.missingAttribute reason)) := by
  cases accessor with
  | named name => exact settle_ne_missingAttribute _ _ reason
  | computed extractor =>
    rw [read_computed]
    exact settle_ne_missingAttribute _ _ reason
  | wrapped inner => exact settle_ne_missingAttribute _ _ reason

/-- What is settled already stays as it is, under whatever name it is settled again. -/
theorem settle_map_ofText? {label : String} {result : Except Fault (Option String)}
    (h : ∀ reason, result ≠ .error (.failed (.missingAttribute reason))) :
    settle label (result.map fun found => .value (Value.ofText? found)) = result := by
  cases result with
  | ok found => cases found <;> rfl
  | error fault =>
    show settle label (.error fault) = .error fault
    unfold settle
    split <;> simp_all

/-! ## Reading -/

/-- A wrapper reads like what it wraps. -/
theorem read_wrapped (inner : Accessor) (item : Value) :
    (wrapped inner).read item = inner.read item :=
  Traced.ext rfl (settle_map_ofText? (inner.read_result_ne_missingAttribute item))

/-- Reading through wrappers is reading the innermost accessor. -/
theorem read_innermost (accessor : Accessor) (item : Value) :
    accessor.innermost.read item = accessor.read item := by
  induction accessor with
  | named name => rfl
  | computed extractor => rfl
  | wrapped inner ih => rw [innermost, ih, read_wrapped]

/-- Settling ends in a fault that names the property, or hands on a failure. -/
private theorem property?_of_settle_eq_error {label : String} {found : Except Failure Reached}
    {fault : Fault} (h : settle label (found.mapError .failed) = .error fault) :
    fault.property? = some label ∨ ∃ failure, fault = .failed failure := by
  unfold settle at h
  split at h
  · exact nomatch h
  · exact nomatch h
  · obtain rfl := Except.error.inj h
    exact .inl rfl
  · obtain rfl := Except.error.inj h
    exact .inl rfl
  · next cause hcause =>
    -- what was looked up or extracted ends in failures only
    obtain rfl := Except.error.inj h
    cases found with
    | ok reached => exact nomatch hcause
    | error failure => exact .inr ⟨failure, (Except.error.inj hcause).symm⟩

/-- Reading ends in a fault that names the property which is read in the end, or in the failure of
the caller's own extractor. -/
theorem property?_of_read_eq_error {accessor : Accessor} {item : Value} {fault : Fault}
    (h : (accessor.read item).result = .error fault) :
    fault.property? = some accessor.innermost.label ∨ ∃ failure, fault = .failed failure := by
  induction accessor with
  | named name => exact property?_of_settle_eq_error h
  | computed extractor =>
    rw [read_computed] at h
    exact property?_of_settle_eq_error h
  | wrapped inner ih =>
    rw [read_wrapped] at h
    exact ih h

end Accessor

/-! ## Choices -/

namespace Selector

/-- The choice wrapped `n` times: each time, an accessor is built from the choice before. -/
def wrap : Nat → Selector → Except Fault Selector
  | 0, selector => .ok selector
  | n + 1, selector => do
    let inner ← wrap n selector
    let accessor ← Accessor.ofSelector inner
    pure (.accessor accessor)

/-- A choice is wrapped once more by an accessor that is built from it. -/
theorem wrap_succ_eq_ok_iff {n : Nat} {selector wrapper : Selector} :
    selector.wrap (n + 1) = .ok wrapper ↔
      ∃ inner accessor, selector.wrap n = .ok inner ∧ Accessor.ofSelector inner = .ok accessor ∧
        wrapper = .accessor accessor := by
  rw [wrap]
  cases selector.wrap n with
  | error fault => simp [bind, Except.bind]
  | ok inner =>
    cases hbuilt : Accessor.ofSelector inner <;>
      simp [bind, Except.bind, pure, Except.pure, hbuilt, eq_comm]

/-- Building an accessor from a choice keeps the innermost accessor. -/
theorem innermost_ofSelector (selector : Selector) :
    (Accessor.ofSelector selector).map Accessor.innermost =
      selector.resolve.map Accessor.innermost := by
  cases selector <;> rfl

/-- A choice stands for the same innermost accessor, or for none, however often it is wrapped. -/
theorem innermost_resolve_of_wrap {n : Nat} {selector wrapper : Selector}
    (h : selector.wrap n = .ok wrapper) :
    wrapper.resolve.map Accessor.innermost = selector.resolve.map Accessor.innermost := by
  induction n generalizing wrapper with
  | zero =>
    obtain rfl : selector = wrapper := Except.ok.inj h
    rfl
  | succ n ih =>
    obtain ⟨inner, accessor, hinner, hbuilt, rfl⟩ := wrap_succ_eq_ok_iff.mp h
    rw [← ih hinner, ← innermost_ofSelector inner, hbuilt]
    rfl

/-- A wrapped choice passes its check, or is refused, like the choice itself. -/
theorem check_of_wrap {n : Nat} {selector wrapper : Selector} (h : selector.wrap n = .ok wrapper) :
    wrapper.check = selector.check := by
  have hinnermost := innermost_resolve_of_wrap h
  rw [check_eq, check_eq]
  cases hs : selector.resolve <;> cases hw : wrapper.resolve <;> simp_all [Except.map]

/-- A wrapped choice stands for the accessor of the choice itself, up to wrappers. -/
theorem innermost_accessor?_of_wrap {n : Nat} {selector wrapper : Selector}
    (h : selector.wrap n = .ok wrapper) :
    wrapper.accessor?.map Accessor.innermost = selector.accessor?.map Accessor.innermost := by
  have hinnermost := innermost_resolve_of_wrap h
  rw [accessor?, accessor?]
  cases hs : selector.resolve <;> cases hw : wrapper.resolve <;>
    simp_all [Except.map, Except.toOption]

/-- A choice that can be resolved can be wrapped any number of times, and then stands for the same
innermost accessor. -/
theorem exists_resolve_wrap {selector : Selector} {accessor : Accessor}
    (h : selector.resolve = .ok accessor) (n : Nat) :
    ∃ wrapper outer, selector.wrap n = .ok wrapper ∧ wrapper.resolve = .ok outer ∧
      outer.innermost = accessor.innermost := by
  induction n with
  | zero => exact ⟨selector, accessor, rfl, h, rfl⟩
  | succ n ih =>
    obtain ⟨inner, resolved, hinner, hresolve, hsame⟩ := ih
    -- what was wrapped so far can be resolved, so an accessor can be built from it
    have hbuilt := innermost_ofSelector inner
    rw [hresolve] at hbuilt
    cases hnext : Accessor.ofSelector inner with
    | error fault =>
      rw [hnext] at hbuilt
      exact nomatch hbuilt
    | ok next =>
      rw [hnext] at hbuilt
      have hnextSame : next.innermost = resolved.innermost := Except.ok.inj hbuilt
      exact ⟨.accessor next, next, wrap_succ_eq_ok_iff.mpr ⟨inner, next, hinner, hnext, rfl⟩, rfl,
        hnextSame.trans hsame⟩

end Selector

end TermSearch
