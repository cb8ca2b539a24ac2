import TermSearch.Value.Fields

/-!
# Setting Fields in Turn

What becomes of ordered fields when others are set on top of them. A name stands where it came up
first, and has the value that it was set to last. As long as no name comes up twice, the names in
order and the values by name determine the fields, so fields that were set in several turns can be
told by these two.

## Main statements

- `Fields.ext_of_nodup`: fields are determined by their names and their values.
- `Fields.names_putAll`, `Fields.get?_putAll`: the names and the values of fields with others set on
  top.
- `Fields.names_foldl_putAll`, `Fields.get?_foldl_putAll`: the same for several turns.
- `Fields.foldl_putAll_eq`: several turns are one turn with what they come to among themselves.
-/

namespace TermSearch.Fields

/-! ## First places -/

section

variable {β : Type} [BEq β]

/-- Induction along the first places: behind an element, what is equal to it is dropped. -/
private theorem firstPlaces_induction {motive : List β → Prop} (nil : motive [])
    (cons : ∀ b rest, motive (rest.filter fun c => !c == b) → motive (b :: rest)) (l : List β) :
    motive l := by
  induction hlength : l.length using Nat.strongRecOn generalizing l with
  | ind n ih =>
    cases l with
    | nil => exact nil
    | cons b rest =>
      have hshorter : (rest.filter fun c => !c == b).length < n := by
        have hle := List.length_filter_le (fun c => !c == b) rest
        rw [← hlength, List.length_cons]
        omega
      exact cons b rest (ih _ hshorter _ rfl)

variable [LawfulBEq β]

/-- Among first places nothing comes up twice. -/
theorem nodup_eraseDups (l : List β) : l.eraseDups.Nodup := by
  induction l using firstPlaces_induction with
  | nil => exact List.nodup_nil
  | cons b rest ih =>
    rw [List.eraseDups_cons, List.nodup_cons]
    refine ⟨fun hmem => ?_, ih⟩
    have hkept := (List.mem_filter.mp (List.mem_eraseDups.mp hmem)).2
    simp at hkept

/-- Nothing is dropped from a list in which nothing comes up twice. -/
theorem eraseDups_of_nodup {l : List β} (h : l.Nodup) : l.eraseDups = l := by
  induction l with
  | nil => rfl
  | cons b rest ih =>
    obtain ⟨hb, hrest⟩ := List.nodup_cons.mp h
    have hkept : rest.filter (fun c => !c == b) = rest := by
      refine List.filter_eq_self.mpr fun c hc => ?_
      have hne : c ≠ b := fun heq => hb (heq ▸ hc)
      simpa using hne
    rw [List.eraseDups_cons, hkept, ih hrest]

/-- The first places of a part of a list are that part of its first places. -/
theorem eraseDups_filter (p : β → Bool) (l : List β) :
    (l.filter p).eraseDups = l.eraseDups.filter p := by
  induction l using firstPlaces_induction with
  | nil => rfl
  | cons b rest ih =>
    have hswap : (rest.filter p).filter (fun c => !c == b) =
        (rest.filter fun c => !c == b).filter p := by
      simp only [List.filter_filter, Bool.and_comm]
    cases hb : p b with
    | true =>
      rw [List.filter_cons_of_pos hb, List.eraseDups_cons, List.eraseDups_cons,
        List.filter_cons_of_pos hb, hswap, ih]
    | false =>
      -- what is kept of the rest is not equal to `b`
      have hkept : (rest.filter p).filter (fun c => !c == b) = rest.filter p := by
        refine List.filter_eq_self.mpr fun c hc => ?_
        have hne : c ≠ b := by
          rintro rfl
          simp [hb] at hc
        simpa using hne
      have hnot : ¬ p b = true := by simp [hb]
      rw [List.filter_cons_of_neg hnot, List.eraseDups_cons, List.filter_cons_of_neg hnot, ← ih,
        ← hswap, hkept]

/-- First places in front may be taken beforehand. -/
theorem eraseDups_eraseDups_append (l m : List β) :
    (l.eraseDups ++ m).eraseDups = (l ++ m).eraseDups := by
  have hrest : m.removeAll l.eraseDups = m.removeAll l := by
    refine List.filter_congr fun b _ => ?_
    simp [List.mem_eraseDups]
  rw [List.eraseDups_append, List.eraseDups_append, hrest, eraseDups_of_nodup (nodup_eraseDups l)]

/-- First places behind may be taken beforehand. -/
theorem eraseDups_append_eraseDups (l m : List β) :
    (l ++ m.eraseDups).eraseDups = (l ++ m).eraseDups := by
  rw [List.eraseDups_append, List.eraseDups_append, List.removeAll, List.removeAll,
    ← eraseDups_filter, eraseDups_of_nodup (nodup_eraseDups _)]

end

/-! ## One turn -/

variable {α : Type} {fields updates : Fields α}

theorem get?_eq_none_iff {name : String} : fields.get? name = none ↔ name ∉ fields.names := by
  rw [get?, names, List.lookup_eq_none_iff]
  simp only [List.mem_map, not_exists, not_and, bne_iff_ne]
  constructor
  · rintro h entry hmem rfl
    exact h entry hmem rfl
  · rintro h entry hmem rfl
    exact h entry hmem rfl

/-- Fields in which no name comes up twice are determined by their names and their values. -/
theorem ext_of_nodup {other : Fields α} (hnodup : fields.names.Nodup)
    (hnames : fields.names = other.names) (hget : ∀ name, fields.get? name = other.get? name) :
    fields = other := by
  induction fields generalizing other with
  | nil =>
    cases other with
    | nil => rfl
    | cons entry rest => simp [names] at hnames
  | cons entry rest ih =>
    obtain ⟨name, value⟩ := entry
    cases other with
    | nil => simp [names] at hnames
    | cons entry' rest' =>
      obtain ⟨name', value'⟩ := entry'
      obtain ⟨rfl, hrest⟩ : name = name' ∧ names rest = names rest' := by simpa [names] using hnames
      obtain ⟨hname, hnodup⟩ : name ∉ names rest ∧ (names rest).Nodup := List.nodup_cons.mp hnodup
      have hvalue : value = value' := by simpa [get?] using hget name
      have hvalues : ∀ other, get? rest other = get? rest' other := by
        intro other
        by_cases heq : other = name
        · -- the name of the first entry has no value behind it
          rw [heq, get?_eq_none_iff.mpr hname, get?_eq_none_iff.mpr (hrest ▸ hname)]
        · have hne : (other == name) = false := by simpa using heq
          simpa [get?, List.lookup_cons, hne] using hget other
      rw [hvalue, ih hnodup hrest hvalues]

/-- Fields in which no name comes up twice, name by name. -/
theorem eq_map_names (hnodup : fields.names.Nodup) (absent : α) :
    fields = fields.names.map fun name => (name, (fields.get? name).getD absent) := by
  induction fields with
  | nil => rfl
  | cons entry rest ih =>
    obtain ⟨name, value⟩ := entry
    obtain ⟨hname, hrest⟩ : name ∉ names rest ∧ (names rest).Nodup := List.nodup_cons.mp hnodup
    have hvalue : get? ((name, value) :: rest) name = some value := by simp [get?]
    have hrest : ((names rest).map fun other =>
        (other, (get? ((name, value) :: rest) other).getD absent)) = rest := by
      -- the first entry has another name than those behind it
      refine (List.map_congr_left fun other hmem => ?_).trans (ih hrest).symm
      have hne : (other == name) = false := by
        simpa using fun heq : other = name => hname (heq ▸ hmem)
      simp [get?, List.lookup_cons, hne]
    have hnames : names ((name, value) :: rest) = name :: names rest := rfl
    rw [hnames, List.map_cons, hvalue, hrest]
    rfl

/-- A name that is set keeps its place, or comes last if it had none. -/
theorem names_put (name : String) (value : α) (fields : Fields α) :
    (fields.put name value).names =
      if name ∈ fields.names then fields.names else fields.names ++ [name] := by
  induction fields with
  | nil => rfl
  | cons entry rest ih =>
    obtain ⟨other, old⟩ := entry
    by_cases heq : other = name
    · simp [put, heq, names]
    · have hne : name ≠ other := fun h => heq h.symm
      simp only [put, heq, if_false, names, List.map_cons, List.mem_cons, hne, false_or] at ih ⊢
      rw [ih]
      by_cases hmem : name ∈ rest.map (·.1) <;> simp [hmem]

/-- Behind fields that are set, the names stand where they came up first. -/
theorem names_putAll (hnodup : fields.names.Nodup) (updates : Fields α) :
    (fields.putAll updates).names = (fields.names ++ updates.names).eraseDups := by
  -- field by field: each name is put behind those that came up before
  induction updates generalizing fields with
  | nil => simpa [putAll, names] using (eraseDups_of_nodup hnodup).symm
  | cons entry rest ih =>
    obtain ⟨name, value⟩ := entry
    have hput : (fields.put name value).names = (fields.names ++ [name]).eraseDups := by
      rw [names_put, List.eraseDups_append, eraseDups_of_nodup hnodup]
      by_cases hmem : name ∈ fields.names <;> simp [hmem, List.removeAll, List.eraseDups_cons]
    have hrest := @ih (fields.put name value) (by rw [hput]; exact nodup_eraseDups _)
    rw [hput, eraseDups_eraseDups_append, List.append_assoc] at hrest
    exact hrest

/-- A name has the value that was set, or else the one that it had before. -/
theorem get?_putAll (hnodup : updates.names.Nodup) (fields : Fields α) (name : String) :
    (fields.putAll updates).get? name = (updates.get? name).or (fields.get? name) := by
  induction updates generalizing fields with
  | nil => simp [putAll, get?]
  | cons entry rest ih =>
    obtain ⟨set, value⟩ := entry
    obtain ⟨hset, hrest⟩ : set ∉ names rest ∧ (names rest).Nodup := List.nodup_cons.mp hnodup
    have hstep : (fields.putAll ((set, value) :: rest)).get? name =
        (get? rest name).or ((fields.put set value).get? name) := ih hrest _
    rw [hstep]
    by_cases heq : name = set
    · subst heq
      rw [get?_put_self, get?_eq_none_iff.mpr hset]
      simp [get?]
    · have hne : (name == set) = false := by simpa using heq
      rw [get?_put_of_ne _ _ heq]
      simp [get?, List.lookup_cons, hne]

theorem nodup_names_putAll (hnodup : fields.names.Nodup) (updates : Fields α) :
    (fields.putAll updates).names.Nodup := by
  rw [names_putAll hnodup]
  exact nodup_eraseDups _

/-! ## Several turns -/

/-- Behind several turns, the names stand where they came up first. -/
theorem names_foldl_putAll (hnodup : fields.names.Nodup) (turns : List (Fields α)) :
    (turns.foldl putAll fields).names = (fields.names ++ turns.flatMap names).eraseDups := by
  induction turns generalizing fields with
  | nil => simpa using (eraseDups_of_nodup hnodup).symm
  | cons updates rest ih =>
    rw [List.foldl_cons, ih (nodup_names_putAll hnodup updates), names_putAll hnodup,
      eraseDups_eraseDups_append, List.append_assoc, List.flatMap_cons]

/-- What comes last of a list is what comes last behind its first element, or else of that. -/
private theorem getLast?_filterMap_cons {β γ : Type} (f : β → Option γ) (b : β) (l : List β) :
    ((b :: l).filterMap f).getLast? = (l.filterMap f).getLast?.or (f b) := by
  rw [List.filterMap_cons]
  cases f b with
  | none => simp
  | some c => cases h : (l.filterMap f).getLast? <;> simp [List.getLast?_cons, h]

/-- Behind several turns, a name has the value of the last one that sets it. -/
theorem get?_foldl_putAll {turns : List (Fields α)}
    (hturns : ∀ updates ∈ turns, updates.names.Nodup) (fields : Fields α) (name : String) :
    (turns.foldl putAll fields).get? name =
      ((fields :: turns).filterMap fun layer => layer.get? name).getLast? := by
  induction turns generalizing fields with
  | nil => cases h : fields.get? name <;> simp [h]
  | cons updates rest ih =>
    obtain ⟨hupdates, hrest⟩ := List.forall_mem_cons.mp hturns
    rw [List.foldl_cons, ih hrest, getLast?_filterMap_cons, get?_putAll hupdates,
      getLast?_filterMap_cons, getLast?_filterMap_cons, Option.or_assoc]

/-- Several turns are one turn with what they come to among themselves. -/
theorem foldl_putAll_eq {turns : List (Fields α)} (hnodup : fields.names.Nodup)
    (hturns : ∀ updates ∈ turns, updates.names.Nodup) :
    turns.foldl putAll fields = fields.putAll (turns.foldl putAll []) := by
  have hempty : (names ([] : Fields α)).Nodup := List.nodup_nil
  have hmerged := names_foldl_putAll hempty turns
  have hmergedNodup : (turns.foldl putAll []).names.Nodup := by
    rw [hmerged]
    exact nodup_eraseDups _
  refine ext_of_nodup ?_ ?_ fun name => ?_
  · rw [names_foldl_putAll hnodup]
    exact nodup_eraseDups _
  · rw [names_foldl_putAll hnodup, names_putAll hnodup, hmerged]
    exact (eraseDups_append_eraseDups _ _).symm
  · rw [get?_foldl_putAll hturns, get?_putAll hmergedNodup, get?_foldl_putAll hturns,
      getLast?_filterMap_cons, getLast?_filterMap_cons]
    simp [get?]

end TermSearch.Fields
