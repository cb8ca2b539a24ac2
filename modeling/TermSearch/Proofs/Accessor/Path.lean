import TermSearch.Accessor

/-!
# Reading by Name

What a name stands for. In an item that is a map, it is the key of an entry, dots and all. In any
other item it spells a path: its parts between the dots are followed one after the other, each of
them as an attribute of the value that the parts before it led to. Only records are given
attributes, so a map that is reached on the way is never looked up by key.

Where a value was not given the attribute that is next, the path stops, and reading fails. It goes
on only if that is an attribute which the value has of itself.

## Main definitions

- `Value.LeadsTo`: where a path of given attributes leads.
- `Accessor.IsSpelledBy`: the parts of a name.
- `Accessor.Finds`: what a name finds in an item.
- `Accessor.StopsAt`: where a path of given attributes comes to an end before its last part.

## Main statements

- `Accessor.isSpelledBy_iff`: every name has its parts, and no others.
- `Accessor.finds_or_stops`: a name finds something, or its path stops.
- `Accessor.lookup_of_finds`, `Accessor.lookup_of_stopsAt`: what looking up a name comes to.
- `Accessor.read_by_name`: what reading a named property comes to.
-/

namespace TermSearch

/-! ## Paths -/

namespace Value

/-- Following a path of given attributes leads from one value to another. -/
inductive LeadsTo : Value → List String → Value → Prop where
  | here (v : Value) : LeadsTo v [] v
  | step {attributes : Fields Value} {part : String} {next v : Value} {rest : List String} :
      part ∉ reservedNames → Fields.get? attributes part = some next → LeadsTo next rest v →
      LeadsTo (.record attributes) (part :: rest) v

/-- A value is no record that was given the attribute. -/
def Lacks (v : Value) (part : String) : Prop :=
  ∀ attributes, v = .record attributes → part ∉ reservedNames → Fields.get? attributes part = none

theorem attribute?_eq_some_iff {v next : Value} {part : String} :
    v.attribute? part = some next ↔
      ∃ attributes, v = .record attributes ∧ part ∉ reservedNames ∧
        Fields.get? attributes part = some next := by
  cases v <;> simp [attribute?]

theorem attribute?_eq_none_iff {v : Value} {part : String} :
    v.attribute? part = none ↔ v.Lacks part := by
  cases v <;> simp [attribute?, Lacks]

/-- A path with a first part leads on from the attribute that the part names. -/
theorem leadsTo_cons_iff {v w : Value} {part : String} {rest : List String} :
    v.LeadsTo (part :: rest) w ↔ ∃ next, v.attribute? part = some next ∧ next.LeadsTo rest w := by
  constructor
  · rintro (_ | ⟨hfree, hpart, hrest⟩)
    exact ⟨_, attribute?_eq_some_iff.mpr ⟨_, rfl, hfree, hpart⟩, hrest⟩
  · rintro ⟨next, hnext, hrest⟩
    obtain ⟨attributes, rfl, hfree, hpart⟩ := attribute?_eq_some_iff.mp hnext
    exact .step hfree hpart hrest

/-- A value that lacks the first part of a path leads nowhere by it. -/
theorem Lacks.not_leadsTo {v w : Value} {part : String} {rest : List String} (h : v.Lacks part) :
    ¬ v.LeadsTo (part :: rest) w := by
  rw [leadsTo_cons_iff, attribute?_eq_none_iff.mpr h]
  simp

/-- A path leads somewhere, or a value that is reached on the way lacks the part that is next. -/
theorem leadsTo_or_lacks (v : Value) (path : List String) :
    (∃ w, v.LeadsTo path w) ∨
      ∃ before w part, before ++ [part] <+: path ∧ v.LeadsTo before w ∧ w.Lacks part := by
  induction path generalizing v with
  | nil => exact .inl ⟨v, .here v⟩
  | cons part rest ih =>
    cases hpart : v.attribute? part with
    | none =>
      exact .inr ⟨[], v, part, by simp, .here v, attribute?_eq_none_iff.mp hpart⟩
    | some next =>
      rcases ih next with ⟨w, hleads⟩ | ⟨before, w, last, hstart, hleads, hlacks⟩
      · exact .inl ⟨w, leadsTo_cons_iff.mpr ⟨next, hpart, hleads⟩⟩
      · exact .inr ⟨part :: before, w, last, List.cons_prefix_cons.mpr ⟨rfl, hstart⟩,
          leadsTo_cons_iff.mpr ⟨next, hpart, hleads⟩, hlacks⟩

end Value

namespace Accessor

open Value (LeadsTo Lacks)

/-- Following a path goes on from where the beginning of the path leads to. -/
theorem follow_append {v w : Value} {before : List String} (h : v.LeadsTo before w)
    (after : List String) : follow (.value v) (before ++ after) = follow (.value w) after := by
  induction h with
  | here v => rfl
  | step hfree hpart _ ih =>
    rw [List.cons_append, follow, Reached.attribute?,
      Value.attribute?_eq_some_iff.mpr ⟨_, rfl, hfree, hpart⟩]
    exact ih

/-- Following a path succeeds with the value that it leads to. -/
theorem follow_of_leadsTo {v w : Value} {path : List String} (h : v.LeadsTo path w) :
    follow (.value v) path = .ok (.value w) := by
  rw [← List.append_nil path, follow_append h]
  rfl

/-- A path leads to one value only. -/
theorem leadsTo_unique {v w w' : Value} {path : List String}
    (h : v.LeadsTo path w) (h' : v.LeadsTo path w') : w = w' :=
  Reached.value.inj (Except.ok.inj ((follow_of_leadsTo h).symm.trans (follow_of_leadsTo h')))

/-- A path that leads somewhere does so from where its beginning leads to. -/
theorem leadsTo_of_append {v w u : Value} {before after : List String} (h : v.LeadsTo before w)
    (hu : v.LeadsTo (before ++ after) u) : w.LeadsTo after u := by
  induction h with
  | here v => exact hu
  | step hfree hpart _ ih =>
    obtain ⟨next, hnext, hrest⟩ := Value.leadsTo_cons_iff.mp hu
    obtain rfl := Option.some.inj
      ((Value.attribute?_eq_some_iff.mpr ⟨_, rfl, hfree, hpart⟩).symm.trans hnext)
    exact ih hrest

/-- Following a path fails at a part that the value reached by then lacks and has not of itself. -/
theorem follow_of_lacks {v w : Value} {before path : List String} {part : String}
    (hstart : before ++ [part] <+: path) (hleads : v.LeadsTo before w) (hlacks : w.Lacks part)
    (hinherent : w.inherent? part = none) :
    follow (.value v) path =
      .error (.missingAttribute (Fault.noAttributeText w.typeName part)) := by
  obtain ⟨after, rfl⟩ := hstart
  have hnone : (Reached.value w).attribute? part = none := by
    rw [Reached.attribute?, Value.attribute?_eq_none_iff.mpr hlacks, hinherent]
    rfl
  rw [List.append_assoc, follow_append hleads, List.singleton_append, follow, hnone]
  rfl

/-! ## Parts of names -/

/-- A name is spelled by its parts, which hold no dots, with a dot between each two of them. -/
structure IsSpelledBy (name : String) (parts : List String) : Prop where
  nonempty : parts ≠ []
  dotless : ∀ part ∈ parts, '.' ∉ part.toList
  joined : ".".intercalate parts = name

/-- The parts between the dots are what the characters are split into. -/
theorem pathParts_eq_splitOn (cs : List Char) : pathParts cs = cs.splitOn '.' := by
  induction cs with
  | nil => rfl
  | cons c rest ih =>
    rw [pathParts, ih, List.splitOn_cons_eq_if_modifyHead]
    by_cases h : c = '.'
    · simp [h]
    · have hne : rest.splitOn '.' ≠ [] := List.splitOn_ne_nil '.' rest
      cases hrest : rest.splitOn '.' with
      | nil => exact absurd hrest hne
      | cons part parts => simp [h]

/-- No part of a name holds a dot. -/
theorem dot_not_mem_of_mem_pathParts {cs part : List Char} (h : part ∈ pathParts cs) :
    '.' ∉ part := by
  induction cs generalizing part with
  | nil =>
    obtain rfl := List.mem_singleton.mp h
    exact List.not_mem_nil
  | cons c rest ih =>
    rw [pathParts] at h
    split at h
    · rcases List.mem_cons.mp h with rfl | h
      · exact List.not_mem_nil
      · exact ih h
    · next hc =>
      split at h
      · next hnil =>
        obtain rfl := List.mem_singleton.mp h
        simpa using fun heq => hc heq.symm
      · next first parts hparts =>
        rw [hparts] at ih
        rcases List.mem_cons.mp h with rfl | h
        · have hfirst := ih List.mem_cons_self
          simpa [hfirst] using fun heq => hc heq.symm
        · exact ih (List.mem_cons_of_mem first h)

/-- A name is spelled by the parts of its path, and by no others. -/
theorem isSpelledBy_iff {name : String} {parts : List String} :
    IsSpelledBy name parts ↔ parts = path name := by
  have hjoined : ∀ (parts : List String),
      (".".intercalate parts).toList = ['.'].intercalate (parts.map String.toList) :=
    fun parts => String.toList_intercalate
  constructor
  · rintro ⟨hne, hdot, rfl⟩
    have hsplit : (['.'].intercalate (parts.map String.toList)).splitOn '.' =
        parts.map String.toList :=
      List.splitOn_intercalate '.' (by simpa using hdot) (by simpa using hne)
    rw [path, pathParts_eq_splitOn, hjoined, hsplit, List.map_map]
    simp [Function.comp_def]
  · rintro rfl
    have hparts : (path name).map String.toList = pathParts name.toList := by
      simp [path, Function.comp_def]
    refine ⟨?_, fun part hpart => ?_, ?_⟩
    · simp [path, pathParts_eq_splitOn]
    · obtain ⟨cs, hcs, rfl⟩ := List.mem_map.mp hpart
      rw [String.toList_ofList]
      exact dot_not_mem_of_mem_pathParts hcs
    · rw [← String.toList_inj, hjoined, hparts, pathParts_eq_splitOn, List.intercalate_splitOn]

/-! ## Names -/

/-- What a name finds in an item: the entry under the whole name, or nothing where there is none, if
the item is a map, and otherwise what the parts of the name lead to. -/
inductive Finds (name : String) (parts : List String) : Value → Value → Prop where
  | entry {entries : Fields Value} {v : Value} :
      Fields.get? entries name = some v → Finds name parts (.map entries) v
  | noEntry {entries : Fields Value} :
      Fields.get? entries name = none → Finds name parts (.map entries) .null
  | path {item v : Value} :
      (∀ entries, item ≠ .map entries) → item.LeadsTo parts v → Finds name parts item v

/-- The parts of a name are followed from an item, which is no map, as far as `before`. The value
that is reached there lacks the part that is next. -/
structure StopsAt (parts : List String) (item : Value) (before : List String) (reached : Value)
    (next : String) : Prop where
  not_map : ∀ entries, item ≠ .map entries
  isPrefix : before ++ [next] <+: parts
  leadsTo : item.LeadsTo before reached
  lacks : reached.Lacks next

variable {name : String} {item : Value}

/-- An item that is no map is looked up along the path. -/
theorem lookup_of_not_map (h : ∀ entries, item ≠ .map entries) :
    lookup name item = follow (.value item) (path name) := by
  cases item with
  | map entries => exact absurd rfl (h entries)
  | _ => rfl

/-- A name finds something in an item, or its path stops. -/
theorem finds_or_stops (name : String) (parts : List String) (item : Value) :
    (∃ v, Finds name parts item v) ∨
      ∃ before reached next, StopsAt parts item before reached next := by
  by_cases hmap : ∃ entries, item = .map entries
  · obtain ⟨entries, rfl⟩ := hmap
    cases hentry : Fields.get? entries name with
    | none => exact .inl ⟨.null, .noEntry hentry⟩
    | some v => exact .inl ⟨v, .entry hentry⟩
  · have hnot : ∀ entries, item ≠ .map entries := by simpa using hmap
    rcases item.leadsTo_or_lacks parts with
      ⟨v, hleads⟩ | ⟨before, reached, next, hstart, hleads, hlacks⟩
    · exact .inl ⟨v, .path hnot hleads⟩
    · exact .inr ⟨before, reached, next, hnot, hstart, hleads, hlacks⟩

/-- Looking up a name succeeds with what the name finds. -/
theorem lookup_of_finds {v : Value} (h : Finds name (path name) item v) :
    lookup name item = .ok (.value v) := by
  rcases h with hentry | hentry | ⟨hnot, hleads⟩
  · rw [lookup, hentry, Option.getD_some]
  · rw [lookup, hentry, Option.getD_none]
  · rw [lookup_of_not_map hnot, follow_of_leadsTo hleads]

/-- Looking up a name fails where its path stops, if the value that is reached there has not the
next part of itself. -/
theorem lookup_of_stopsAt {before : List String} {reached : Value} {next : String}
    (h : StopsAt (path name) item before reached next) (hinherent : reached.inherent? next = none) :
    lookup name item =
      .error (.missingAttribute (Fault.noAttributeText reached.typeName next)) := by
  rw [lookup_of_not_map h.not_map]
  exact follow_of_lacks h.isPrefix h.leadsTo h.lacks hinherent

/-- A path that goes on behind the place where it stops leads nowhere. -/
theorem StopsAt.not_leadsTo {parts before path : List String} {reached v : Value} {next : String}
    (h : StopsAt parts item before reached next) (hpath : before ++ [next] <+: path) :
    ¬ item.LeadsTo path v := by
  obtain ⟨after, rfl⟩ := hpath
  intro hleads
  rw [List.append_assoc] at hleads
  exact h.lacks.not_leadsTo (leadsTo_of_append h.leadsTo hleads)

/-- Where its path stops, a name finds nothing. -/
theorem StopsAt.not_finds {parts before : List String} {reached v : Value} {next : String}
    (h : StopsAt parts item before reached next) : ¬ Finds name parts item v := by
  rintro (hentry | hentry | ⟨-, hleads⟩)
  · exact h.not_map _ rfl
  · exact h.not_map _ rfl
  · exact h.not_leadsTo h.isPrefix hleads

/-- A path stops at one place only, behind which no part of it is followed. -/
theorem StopsAt.unique {parts before before' : List String} {reached reached' : Value}
    {next next' : String} (h : StopsAt parts item before reached next)
    (h' : StopsAt parts item before' reached' next') :
    before = before' ∧ reached = reached' ∧ next = next' := by
  -- of two beginnings of a path, one goes on from the other unless they are the same
  have hsame : before ++ [next] = before' ++ [next'] := by
    rcases List.prefix_or_prefix_of_prefix h.isPrefix h'.isPrefix with hle | hle
    · rcases List.prefix_concat_iff.mp hle with heq | hlt
      · exact heq
      · exact absurd h'.leadsTo (h.not_leadsTo hlt)
    · rcases List.prefix_concat_iff.mp hle with heq | hlt
      · exact heq.symm
      · exact absurd h.leadsTo (h'.not_leadsTo hlt)
  obtain ⟨rfl, hnext⟩ := List.append_inj' hsame rfl
  exact ⟨rfl, leadsTo_unique h.leadsTo h'.leadsTo, List.singleton_inj.mp hnext⟩

/-! ## Reading -/

/-- A text, and nothing, are what they are taken for. -/
theorem settle_ofText? (label : String) (found : Option String) :
    settle label (.ok (.value (Value.ofText? found))) = .ok found := by
  cases found <;> rfl

/-- Where something is taken for a text or for nothing, it is one or the other. -/
theorem eq_ofText?_of_settle {label : String} {v : Value} {found : Option String}
    (h : settle label (.ok (.value v)) = .ok found) : v = Value.ofText? found := by
  cases v with
  | null => exact congrArg Value.ofText? (Except.ok.inj h)
  | text s => exact congrArg Value.ofText? (Except.ok.inj h)
  | _ => exact nomatch h

/-- Anything else is named by its kind. -/
theorem settle_ok_of_ne {label : String} {v : Value} (h : ∀ found, v ≠ Value.ofText? found) :
    settle label (.ok (.value v)) = .error (.propertyNotText label v.typeName) := by
  cases v with
  | null => exact absurd rfl (h none)
  | text s => exact absurd rfl (h (some s))
  | _ => rfl

/-- Looking up a name fails only for an attribute that is lacking. -/
theorem missingAttribute_of_lookup_eq_error {failure : Failure}
    (h : lookup name item = .error failure) : ∃ reason, failure = .missingAttribute reason := by
  have hfollow : ∀ (parts : List String) (reached : Reached),
      follow reached parts = .error failure → ∃ reason, failure = .missingAttribute reason := by
    intro parts
    induction parts with
    | nil => exact fun _ h => nomatch h
    | cons part rest ih =>
      intro reached h
      rw [follow] at h
      split at h
      · exact ih _ h
      · exact ⟨_, (Except.error.inj h).symm⟩
  cases item with
  | map entries => exact nomatch h
  | _ => exact hfollow _ _ h

/-- A fault of a named read is that what was found is no text, or that an attribute was lacking. -/
theorem fault_of_read_named {fault : Fault} (h : ((named name).read item).result = .error fault) :
    (∃ type, fault = .propertyNotText name type) ∨ ∃ reason, fault = .unreadable name reason := by
  change settle name ((lookup name item).mapError .failed) = .error fault at h
  cases hlookup : lookup name item with
  | error failure =>
    obtain ⟨reason, rfl⟩ := missingAttribute_of_lookup_eq_error hlookup
    rw [hlookup] at h
    exact .inr ⟨reason, (Except.error.inj h).symm⟩
  | ok reached =>
    rw [hlookup] at h
    refine .inl ⟨reached.typeName, ?_⟩
    cases reached with
    | native object => exact (Except.error.inj h).symm
    | value v =>
      cases v with
      | null | text s => exact nomatch h
      | _ => exact (Except.error.inj h).symm

/-- A fault for a lacking attribute gives the property, the kind of the value and the attribute. -/
private theorem message_unreadable (name type part : String) :
    (Fault.unreadable name (Fault.noAttributeText type part)).message =
      "Failed to read search property '" ++ name ++ "': '" ++ type ++
        "' object has no attribute '" ++ part ++ "'" := by
  have hquote : "': '" = "': " ++ "'" := by decide
  rw [hquote]
  unfold Fault.message Fault.noAttributeText
  -- the quote stays apart, so that both sides are the same texts in a row
  simp only [String.append_assoc, -String.reduceAppend]

/-- Reading a named property comes to what the name finds, if that is a text or nothing. If it is
anything else, the fault names the property and the kind of what was found. The name finds nothing
at all only where its path stops, at one place, and then the fault names the property, the part that
is lacking there and the kind of the value that lacks it. That is so unless this value has the part
of itself; nothing but that can make a read succeed with what the name does not find. Every fault is
one of the search and names the property. No extractor is asked. -/
theorem read_by_name {name : String} {parts : List String} (hname : IsSpelledBy name parts)
    (item : Value) :
    (∀ found, Finds name parts item (Value.ofText? found) →
      ((named name).read item).result = .ok found) ∧
    (∀ v, Finds name parts item v → (∀ found, v ≠ Value.ofText? found) →
      ∃ fault, ((named name).read item).result = .error fault ∧ fault.kind = .search ∧
        fault.message = "Property '" ++ name ++ "' returned " ++ v.typeName ++ ", expected str") ∧
    ((¬ ∃ v, Finds name parts item v) ↔
      ∃ before reached next, StopsAt parts item before reached next) ∧
    (∀ before reached next, StopsAt parts item before reached next →
      (reached.inherent? next = none →
        ∃ fault, ((named name).read item).result = .error fault ∧ fault.kind = .search ∧
          fault.message = "Failed to read search property '" ++ name ++ "': '" ++
            reached.typeName ++ "' object has no attribute '" ++ next ++ "'") ∧
      ∀ before' reached' next', StopsAt parts item before' reached' next' →
        before = before' ∧ reached = reached' ∧ next = next') ∧
    (∀ found, ((named name).read item).result = .ok found →
      Finds name parts item (Value.ofText? found) ∨
        ∃ before reached next, StopsAt parts item before reached next ∧
          reached.inherent? next ≠ none) ∧
    (∀ fault, ((named name).read item).result = .error fault → fault.kind = .search ∧
      ((∃ type, fault.message = "Property '" ++ name ++ "' returned " ++ type ++ ", expected str") ∨
        ∃ reason, fault.message =
          "Failed to read search property '" ++ name ++ "': " ++ reason)) ∧
    ((named name).read item).trace = [] := by
  obtain rfl := isSpelledBy_iff.mp hname
  have hresult : ((named name).read item).result =
      settle name ((lookup name item).mapError .failed) := rfl
  have hfinds : ∀ v, Finds name (path name) item v →
      ((named name).read item).result = settle name (.ok (.value v)) := by
    intro v h
    rw [hresult, lookup_of_finds h]
    rfl
  have hstops : ∀ before reached next, StopsAt (path name) item before reached next →
      reached.inherent? next = none →
      ((named name).read item).result =
        .error (.unreadable name (Fault.noAttributeText reached.typeName next)) := by
    intro before reached next h hinherent
    rw [hresult, lookup_of_stopsAt h hinherent]
    rfl
  refine ⟨fun found h => ?_, fun v h hv => ?_, ⟨fun h => ?_, ?_⟩, fun before reached next h =>
    ⟨fun hinherent => ?_, fun before' reached' next' h' => h.unique h'⟩, fun found hfound => ?_,
    fun fault hfault => ?_, rfl⟩
  · rw [hfinds _ h, settle_ofText?]
  · rw [hfinds v h]
    exact ⟨_, settle_ok_of_ne hv, rfl, rfl⟩
  · exact (finds_or_stops name (path name) item).resolve_left h
  · rintro ⟨before, reached, next, hstop⟩ ⟨v, h⟩
    exact hstop.not_finds h
  · rw [hstops before reached next h hinherent]
    exact ⟨_, rfl, rfl, message_unreadable name reached.typeName next⟩
  · rcases finds_or_stops name (path name) item with ⟨v, h⟩ | ⟨before, reached, next, hstop⟩
    · rw [hfinds v h] at hfound
      exact .inl (eq_ofText?_of_settle hfound ▸ h)
    · refine .inr ⟨before, reached, next, hstop, fun hinherent => ?_⟩
      rw [hstops before reached next hstop hinherent] at hfound
      exact nomatch hfound
  · obtain ⟨type, rfl⟩ | ⟨reason, rfl⟩ := fault_of_read_named hfault
    · exact ⟨rfl, .inl ⟨type, rfl⟩⟩
    · exact ⟨rfl, .inr ⟨reason, rfl⟩⟩

/-- A path with an empty part stops at a map, though the map has an entry for the part. -/
theorem read_by_name_stops_at_map :
    IsSpelledBy "boss..city" ["boss", "", "city"] ∧
    StopsAt ["boss", "", "city"] (.record [("boss", .map [("", .text "Rome")])]) ["boss"]
      (.map [("", .text "Rome")]) "" ∧
    ∃ fault, ((named "boss..city").read
        (.record [("boss", .map [("", .text "Rome")])])).result = .error fault ∧
      fault.kind = .search ∧
      fault.message = "Failed to read search property '" ++ "boss..city" ++ "': '" ++ "dict" ++
        "' object has no attribute '" ++ "" ++ "'" := by
  have hname : IsSpelledBy "boss..city" ["boss", "", "city"] :=
    isSpelledBy_iff.mpr (by decide +kernel)
  have hstop : StopsAt ["boss", "", "city"] (.record [("boss", .map [("", .text "Rome")])]) ["boss"]
      (.map [("", .text "Rome")]) "" := by
    refine ⟨nofun, by simp, .step (by decide) ?_ (.here _), nofun⟩
    simp [Fields.get?]
  obtain ⟨-, -, -, hstops, -⟩ :=
    read_by_name hname (.record [("boss", .map [("", .text "Rome")])])
  exact ⟨hname, hstop, (hstops _ _ _ hstop).1 rfl⟩

/-- A path stops at a text, which is no record, but the text has the next part of itself. So no
attribute is lacking: a method is no text, and the name of a class is one. -/
theorem read_by_name_goes_on_from_text :
    (IsSpelledBy "name.upper" ["name", "upper"] ∧
      StopsAt ["name", "upper"] (.record [("name", .text "Ann")]) ["name"] (.text "Ann") "upper" ∧
      ((named "name.upper").read (.record [("name", .text "Ann")])).result =
        .error (.propertyNotText "name.upper" "builtin_function_or_method") ∧
      (Fault.propertyNotText "name.upper" "builtin_function_or_method").message ≠
        "Failed to read search property 'name.upper': 'str' object has no attribute 'upper'") ∧
    IsSpelledBy "name.__class__.__name__" ["name", "__class__", "__name__"] ∧
      StopsAt ["name", "__class__", "__name__"] (.record [("name", .text "Ann")]) ["name"]
        (.text "Ann") "__class__" ∧
      ((named "name.__class__.__name__").read (.record [("name", .text "Ann")])).result =
        .ok (some "str") := by
  have hleads : Value.LeadsTo (.record [("name", .text "Ann")]) ["name"] (.text "Ann") :=
    .step (by decide) rfl (.here _)
  exact ⟨⟨isSpelledBy_iff.mpr (by decide +kernel), ⟨nofun, by simp, hleads, nofun⟩, rfl, by decide⟩,
    isSpelledBy_iff.mpr (by decide +kernel), ⟨nofun, by simp, hleads, nofun⟩, rfl⟩

end Accessor

end TermSearch
