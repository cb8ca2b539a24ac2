import TermSearch.Accessor

/-!
# Faults of Reads

Which faults come up where a property is read: an item lacks what the property is read from, the
property is no text, or the caller's own extractor fails.
-/

namespace TermSearch

/-- Whether a fault is one that reading a property may end in. -/
def Fault.isOfRead : Fault → Bool
  | unreadable _ _ | propertyNotText _ _ | failed _ => true
  | _ => false

namespace Accessor

/-- Settling what was found adds only faults of reads. -/
private theorem isOfRead_of_settle_eq_error {label : String} {found : Except Fault Reached}
    {fault : Fault} (hfound : ∀ cause, found = .error cause → cause.isOfRead = true)
    (h : settle label found = .error fault) : fault.isOfRead = true := by
  unfold settle at h
  split at h
  · simp at h
  · simp at h
  · obtain rfl := Except.error.inj h
    rfl
  · obtain rfl := Except.error.inj h
    rfl
  · obtain rfl := Except.error.inj h
    exact hfound _ rfl

/-- An extractor is asked once, and what it extracts is settled. -/
theorem read_computed (extractor : Extractor) (item : Value) :
    (computed extractor).read item =
      ⟨[.read extractor.label item],
        settle extractor.label (((extractor.extract item).map .value).mapError .failed)⟩ := by
  rw [read, Traced.bind_of_result_ok (Traced.result_record _)]
  rfl

/-- Reading a property ends in no other faults. -/
theorem isOfRead_of_read_eq_error {accessor : Accessor} {item : Value} {fault : Fault}
    (h : (accessor.read item).result = .error fault) : fault.isOfRead = true := by
  have hfailed : ∀ (found : Except Failure Reached) (cause : Fault),
      found.mapError .failed = .error cause → cause.isOfRead = true := by
    intro found cause hcause
    cases found with
    | ok reached => exact nomatch hcause
    | error failure =>
      obtain rfl := Except.error.inj hcause
      rfl
  induction accessor generalizing fault with
  | named name => exact isOfRead_of_settle_eq_error (hfailed _) h
  | computed extractor =>
    rw [read_computed] at h
    exact isOfRead_of_settle_eq_error (hfailed _) h
  | wrapped inner ih =>
    -- what was found here is what the inner accessor read
    refine isOfRead_of_settle_eq_error (fun cause hcause => ih ?_) h
    cases hinner : (inner.read item).result with
    | error other => simpa [hinner, Except.map] using hcause
    | ok value => simp [hinner, Except.map] at hcause

end Accessor

end TermSearch
