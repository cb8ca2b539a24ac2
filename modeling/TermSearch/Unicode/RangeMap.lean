/-!
# Range Maps

Search trees over code points. Each node holds a closed range of code points and one
value for the whole range. Properties of characters are written as lists of such ranges,
ascending and apart, and looked up in the balanced tree built from the list.

## Main statements

- `RangeMap.mem_ofList`: the tree holds only ranges of the list that it was built from.
- `RangeMap.exists_of_find?`: what is found belongs to a range of the tree around the key.
- `RangeMap.exists_mem_of_find?_keyed`: in a tree over single keys, each has its own value.
-/

namespace TermSearch.Unicode

/-- A search tree whose nodes are closed ranges of code points, each with a value. -/
inductive RangeMap (α : Type) where
  | empty
  | node (below : RangeMap α) (first last : Nat) (value : α) (above : RangeMap α)

namespace RangeMap

variable {α : Type}

/-- The place of `n` in the range that holds it, with the value of that range. -/
def find? : RangeMap α → Nat → Option (Nat × α)
  | empty, _ => none
  | node below first last value above, n =>
    if n < first then below.find? n
    else if last < n then above.find? n
    else some (n - first, value)

/-- Whether some range of the tree holds `n`. -/
def contains (m : RangeMap α) (n : Nat) : Bool :=
  (m.find? n).isSome

/-- The ranges of the tree, from left to right. -/
def toList : RangeMap α → List (Nat × Nat × α)
  | empty => []
  | node below first last value above => below.toList ++ (first, last, value) :: above.toList

/-- A tree of at most `depth` levels over the first ranges of a list, and the ranges left. -/
def build : Nat → List (Nat × Nat × α) → RangeMap α × List (Nat × Nat × α)
  | 0, ranges => (empty, ranges)
  | depth + 1, ranges =>
    match build depth ranges with
    | (below, []) => (below, [])
    | (below, (first, last, value) :: rest) =>
      let (above, rest) := build depth rest
      (node below first last value above, rest)

/-- The balanced tree over a list of ranges that are ascending and apart. -/
def ofList (ranges : List (Nat × Nat × α)) : RangeMap α :=
  (build (ranges.length.log2 + 1) ranges).1

/-! ## What a tree holds -/

/-- A tree and the ranges left over come from the list that was built from. -/
private theorem mem_build (depth : Nat) (ranges : List (Nat × Nat × α)) :
    (∀ r ∈ (build depth ranges).1.toList, r ∈ ranges) ∧
      (∀ r ∈ (build depth ranges).2, r ∈ ranges) := by
  induction depth generalizing ranges with
  | zero => simp [build, toList]
  | succ depth ih =>
    have hbelow := ih ranges
    unfold build
    split
    · next below heq => simp_all
    · next below first last value rest heq =>
      have habove := ih rest
      simp only [heq, List.mem_cons] at hbelow
      refine ⟨fun r hr => ?_, fun r hr => hbelow.2 r (.inr (habove.2 r hr))⟩
      simp only [toList, List.mem_append, List.mem_cons] at hr
      rcases hr with hr | hr | hr
      · exact hbelow.1 r hr
      · exact hbelow.2 r (.inl hr)
      · exact hbelow.2 r (.inr (habove.1 r hr))

/-- The tree holds only ranges of the list that it was built from. -/
theorem mem_ofList {ranges : List (Nat × Nat × α)} {r : Nat × Nat × α}
    (h : r ∈ (ofList ranges).toList) : r ∈ ranges :=
  (mem_build _ ranges).1 r h

/-- What is found belongs to a range of the tree around the key. -/
theorem exists_of_find? {m : RangeMap α} {n offset : Nat} {value : α}
    (h : m.find? n = some (offset, value)) :
    ∃ first last, (first, last, value) ∈ m.toList ∧ first ≤ n ∧ n ≤ last ∧ n = first + offset := by
  induction m with
  | empty => simp [find?] at h
  | node below first last v above ihBelow ihAbove =>
    unfold find? at h
    split at h
    · obtain ⟨a, b, hmem, hbounds⟩ := ihBelow h
      exact ⟨a, b, by simp [toList, hmem], hbounds⟩
    · split at h
      · obtain ⟨a, b, hmem, hbounds⟩ := ihAbove h
        exact ⟨a, b, by simp [toList, hmem], hbounds⟩
      · simp only [Option.some.injEq, Prod.mk.injEq] at h
        obtain ⟨rfl, rfl⟩ := h
        exact ⟨first, last, by simp [toList], by omega, by omega, by omega⟩

/-- What is found belongs to a range around the key, of those that the tree was built from. -/
theorem exists_mem_of_find?_ofList {ranges : List (Nat × Nat × α)} {n offset : Nat} {value : α}
    (h : (ofList ranges).find? n = some (offset, value)) :
    ∃ first last, (first, last, value) ∈ ranges ∧ first ≤ n ∧ n ≤ last ∧ n = first + offset := by
  obtain ⟨first, last, hmem, hbounds⟩ := exists_of_find? h
  exact ⟨first, last, mem_ofList hmem, hbounds⟩

/-- In a tree over single keys, the key is found with its own value. -/
theorem exists_mem_of_find?_keyed {β : Type} {entries : List β} {key : β → Nat} {val : β → α}
    {n offset : Nat} {value : α}
    (h : (ofList (entries.map fun e => (key e, key e, val e))).find? n = some (offset, value)) :
    ∃ e ∈ entries, key e = n ∧ val e = value := by
  obtain ⟨first, last, hmem, hfirst, hlast, -⟩ := exists_mem_of_find?_ofList h
  obtain ⟨e, he, heq⟩ := List.mem_map.mp hmem
  simp only [Prod.mk.injEq] at heq
  obtain ⟨rfl, rfl, hval⟩ := heq
  exact ⟨e, he, Nat.le_antisymm hfirst hlast, hval⟩

end RangeMap

end TermSearch.Unicode
