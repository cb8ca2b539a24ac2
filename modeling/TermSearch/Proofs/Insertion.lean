/-!
# Insertion

Lists into which elements are put that do not matter. What does not look at such elements finds the
same in the list with and without them.

## Main definitions

- `Inserted`: elements of some kind are put into a list.
-/

namespace TermSearch

variable {α : Type} {p : α → Prop} {l extended : List α}

/-- The second list is the first one with elements put in of which `p` holds, any number of them and
anywhere. -/
inductive Inserted (p : α → Prop) : List α → List α → Prop where
  | nil : Inserted p [] []
  /-- An element stays at its place among the others. -/
  | keep (a : α) {l extended : List α} : Inserted p l extended →
      Inserted p (a :: l) (a :: extended)
  /-- An element is put in. -/
  | insert {a : α} {l extended : List α} (h : p a) : Inserted p l extended →
      Inserted p l (a :: extended)

namespace Inserted

/-- The same is left of both lists where elements of the kind are left out. -/
theorem filter_eq (h : Inserted p l extended) {keeps : α → Bool}
    (hkeeps : ∀ a, p a → keeps a = false) : extended.filter keeps = l.filter keeps := by
  induction h with
  | nil => rfl
  | keep a _ ih => rw [List.filter_cons, List.filter_cons, ih]
  | @insert a _ _ ha _ ih => rw [List.filter_cons_of_neg (by simp [hkeeps a ha]), ih]

end Inserted

end TermSearch
