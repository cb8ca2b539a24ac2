/-!
# Ordered Fields

Lists of named entries in the order in which their names first came. Setting a name again
changes its value and keeps its place.
-/

namespace TermSearch

/-- Named entries, in order. -/
abbrev Fields (α : Type) := List (String × α)

namespace Fields

variable {α : Type}

/-- Sets the entry of a name: in its place if it is there, at the end otherwise. -/
def put (name : String) (value : α) : Fields α → Fields α
  | [] => [(name, value)]
  | (other, old) :: rest =>
    if other = name then (name, value) :: rest else (other, old) :: put name value rest

/-- Sets entries one after the other. -/
def putAll (fields updates : Fields α) : Fields α :=
  updates.foldl (fun fields (name, value) => fields.put name value) fields

/-- The value of a name. -/
def get? (fields : Fields α) (name : String) : Option α :=
  fields.lookup name

/-- The names, in order. -/
def names (fields : Fields α) : List String :=
  fields.map (·.1)

/-- A name that was just set has the value that it was set to. -/
theorem get?_put_self (fields : Fields α) (name : String) (value : α) :
    (fields.put name value).get? name = some value := by
  induction fields with
  | nil => simp [put, get?]
  | cons entry rest ih =>
    obtain ⟨other, old⟩ := entry
    unfold put
    split
    · simp [get?]
    · next h =>
      have hne : (name == other) = false := by simpa using fun heq => h heq.symm
      simpa [get?, List.lookup_cons, hne] using ih

/-- Setting a name leaves the values of all others. -/
theorem get?_put_of_ne (fields : Fields α) {name other : String} (value : α)
    (h : other ≠ name) : (fields.put name value).get? other = fields.get? other := by
  have hne : (other == name) = false := by simpa using h
  induction fields with
  | nil => simp [put, get?, List.lookup_cons, hne]
  | cons entry rest ih =>
    obtain ⟨key, old⟩ := entry
    unfold put
    split
    · next heq => simp [get?, List.lookup_cons, heq, hne]
    · simp only [get?, List.lookup_cons] at ih ⊢
      rw [ih]

end Fields

end TermSearch
