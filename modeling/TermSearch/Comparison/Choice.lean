import TermSearch.Comparison.Basic
import TermSearch.Fault
import TermSearch.Text.Placement
import TermSearch.Value.Display

/-!
# Choosing Comparisons and Placements

The values by which callers choose a comparison or a placement: the words of
`Comparison.label` and `Text.Placement.label`. All other values choose none, and the fault
shows them in their written form.
-/

namespace TermSearch

/-- The comparison that a value chooses: only the words of comparisons choose one. -/
def Comparison.ofValue (v : Value) : Except Fault Comparison :=
  match v with
  | .text word =>
    match Comparison.ofLabel? word with
    | some c => .ok c
    | none => .error (.unknownComparison word)
  | other => .error (.unknownComparison other.display)

/-- The word of a comparison chooses it. -/
theorem Comparison.ofValue_label (c : Comparison) : ofValue (.text c.label) = .ok c := by
  simp [ofValue, ofLabel?_label]

/-- The placement that a value chooses: only the words of placements choose one. -/
def Text.Placement.ofValue (v : Value) : Except Fault Text.Placement :=
  match v with
  | .text word =>
    match Text.Placement.ofLabel? word with
    | some p => .ok p
    | none => .error (.unknownPlacement word)
  | other => .error (.unknownPlacement other.display)

/-- The word of a placement chooses it. -/
theorem Text.Placement.ofValue_label (p : Text.Placement) : ofValue (.text p.label) = .ok p := by
  simp [ofValue, ofLabel?_label]

end TermSearch
