import Mathlib.Data.List.Forall2
import TermSearch.Proofs.Insertion
import TermSearch.Proofs.Request

/-!
# Validation of Requests

Which data is accepted as a request, and what is made of it. Acceptance is judged by the entries of
five keys alone, each for itself, so further entries do no harm. An accepted request is described by
the data that it is written out as, and this data is accepted as the very same request: names lose
the white space around them once, and defaults are written out as if they had been chosen.

## Main definitions

- `Request.Acceptable`: the entries that data has to have.
- `Request.Chooses`: what a key with declared words chooses.
- `Request.DescribedBy`: the entries from which a request is made.

## Main statements

- `Request.ofValue_eq_ok_iff`: the request that is made of data is described by it.
- `Request.ofFields_of_inserted`: further entries change nothing.
- `Request.ofValue_toValue`: a request that was accepted is read back from its data.
- `Request.accepts_well_formed_data`: all of it, for any data.
-/

namespace TermSearch.Request

open Text (Placement)

/-! ## What data describes -/

/-- What a key chooses whose values are words: the default where it is absent, and otherwise the
choice whose word is its value. -/
def Chooses {α : Type} (label : α → String) (standard : α) : Option Value → α → Prop
  | none, choice => choice = standard
  | some v, choice => v = .text (label choice)

/-- The names in the data of a request, each with the name that the request has for it. -/
structure Names (fields : Fields Value) (names given : List String) : Prop where
  entry : fields.get? "properties" = some (.list (given.map .text))
  ne_nil : given ≠ []
  not_blank : ∀ name ∈ given, Text.isBlank name = false
  trimmed : List.Forall₂ Text.IsTrimOf names given

/-- The entries from which a request is made: names, some terms, and three choices. -/
structure DescribedBy (request : Request) (fields : Fields Value) : Prop where
  properties : ∃ given, Names fields request.properties given
  operation : Chooses Operation.label .containing (fields.get? "operation") request.operation
  terms : fields.get? "terms" = some (.list (request.terms.map .text))
  terms_ne_nil : request.terms ≠ []
  comparison : Chooses Comparison.label ⟨.currentCulture, false⟩ (fields.get? "comparison")
    request.comparison
  placement : Chooses Placement.label .anywhere (fields.get? "search_type") request.placement

/-- The entries that data has to have to be accepted as a request. -/
structure Acceptable (fields : Fields Value) : Prop where
  properties : ∃ names : List String, fields.get? "properties" = some (.list (names.map .text)) ∧
    names ≠ [] ∧ ∀ name ∈ names, Text.isBlank name = false
  terms : ∃ terms : List String, fields.get? "terms" = some (.list (terms.map .text)) ∧ terms ≠ []
  operation : ∀ v, fields.get? "operation" = some v → ∃ o : Operation, v = .text o.label
  comparison : ∀ v, fields.get? "comparison" = some v → ∃ c : Comparison, v = .text c.label
  placement : ∀ v, fields.get? "search_type" = some v → ∃ p : Placement, v = .text p.label

/-! ## Reading -/

/-- Names without the white space around them are the trimmed names, one for each. -/
theorem forall₂_isTrimOf_iff {names given : List String} :
    List.Forall₂ Text.IsTrimOf names given ↔ names = given.map Text.trim := by
  have htrim : Text.IsTrimOf = fun name text => name = Text.trim text := by
    funext name text
    rw [← Text.trim_eq_iff]
    exact propext eq_comm
  rw [htrim, ← List.forall₂_map_right_iff, List.forall₂_eq_eq_eq]

/-- Names are read that are not blank, and lose the white space around them. -/
theorem readNames_eq_ok_iff_names {fields : Fields Value} {names : List String} :
    readNames fields = .ok names ↔ ∃ given, Names fields names given := by
  rw [readNames_eq_ok_iff]
  constructor
  · rintro ⟨given, hgiven, rfl, hnames⟩
    obtain ⟨hentry, hne⟩ := readTexts_eq_ok_iff.mp hgiven
    refine ⟨given, hentry, hne, fun name hmem => ?_, forall₂_isTrimOf_iff.mpr rfl⟩
    rw [← Text.isEmpty_trim]
    exact hnames _ (List.mem_map_of_mem hmem)
  · rintro ⟨given, hentry, hne, hblank, htrimmed⟩
    obtain rfl := forall₂_isTrimOf_iff.mp htrimmed
    refine ⟨given, readTexts_eq_ok_iff.mpr ⟨hentry, hne⟩, rfl, fun name hmem => ?_⟩
    obtain ⟨text, htext, rfl⟩ := List.mem_map.mp hmem
    rw [Text.isEmpty_trim, hblank text htext]

/-- A field with declared words is read as what its entry chooses. -/
theorem readMember_eq_ok_iff {α : Type} {field : RequestField} {choices : List α}
    {label : α → String} {standard choice : α} {fields : Fields Value}
    (h : ∀ a, (choices.find? fun other => label other == label a) = some a) :
    readMember field choices label standard fields = .ok choice ↔
      Chooses label standard (fields.get? field.label) choice := by
  rw [readMember]
  cases fields.get? field.label with
  | none => simp [Chooses, eq_comm]
  | some v =>
    cases v with
    | text word =>
      have hchooses : Chooses label standard (some (.text word)) choice ↔ word = label choice :=
        ⟨Value.text.inj, congrArg _⟩
      rw [hchooses]
      constructor
      · -- the word that is found is the word that was looked for
        intro hread
        cases hfind : choices.find? fun other => label other == word with
        | none => simp [hfind] at hread
        | some found =>
          obtain rfl : found = choice := by simpa [hfind] using hread
          exact (by simpa using List.find?_some hfind : label found = word).symm
      · rintro rfl
        simp only [h choice]
    | _ => simp [Chooses]

/-- Some choice is made where a key is absent or has a declared word. -/
theorem exists_chooses_iff {α : Type} {label : α → String} {standard : α} {entry : Option Value} :
    (∃ choice, Chooses label standard entry choice) ↔
      ∀ v, entry = some v → ∃ choice, v = .text (label choice) := by
  cases entry <;> simp [Chooses]

/-- The request that is made of data is described by it. -/
theorem ofValue_eq_ok_iff {data : Value} {request : Request} :
    ofValue data = .ok request ↔
      ∃ fields, data = .map fields ∧ request.DescribedBy fields := by
  cases data with
  | map fields =>
    have hoperation := @readMember_eq_ok_iff _ .operation _ _ .containing request.operation fields
      Operation.ofLabel?_label
    have hcomparison := @readMember_eq_ok_iff _ .comparison _ _ ⟨.currentCulture, false⟩
      request.comparison fields Comparison.ofLabel?_label
    have hplacement := @readMember_eq_ok_iff _ .searchType _ _ .anywhere request.placement fields
      Placement.ofLabel?_label
    have hterms := @readTexts_eq_ok_iff .terms fields request.terms
    rw [ofValue, ofFields_eq_ok_iff, readNames_eq_ok_iff_names]
    constructor
    · rintro ⟨hnames, ho, ht, hc, hp⟩
      exact ⟨fields, rfl, hnames, hoperation.mp ho, (hterms.mp ht).1, (hterms.mp ht).2,
        hcomparison.mp hc, hplacement.mp hp⟩
    · rintro ⟨others, heq, hnames, ho, ht, hne, hc, hp⟩
      obtain rfl := Value.map.inj heq
      exact ⟨hnames, hoperation.mpr ho, hterms.mpr ⟨ht, hne⟩, hcomparison.mpr hc,
        hplacement.mpr hp⟩
  | _ => simp [ofValue]

/-- Data describes some request where it has the entries that it has to have. -/
theorem exists_describedBy_iff {fields : Fields Value} :
    (∃ request : Request, request.DescribedBy fields) ↔ Acceptable fields := by
  constructor
  · rintro ⟨request, ⟨given, hentry, hne, hblank, -⟩, ho, ht, hterms, hc, hp⟩
    exact ⟨⟨given, hentry, hne, hblank⟩, ⟨_, ht, hterms⟩, exists_chooses_iff.mp ⟨_, ho⟩,
      exists_chooses_iff.mp ⟨_, hc⟩, exists_chooses_iff.mp ⟨_, hp⟩⟩
  · rintro ⟨⟨given, hentry, hne, hblank⟩, ⟨terms, ht, hterms⟩, ho, hc, hp⟩
    obtain ⟨operation, ho⟩ := exists_chooses_iff.mpr ho
    obtain ⟨comparison, hc⟩ := exists_chooses_iff.mpr hc
    obtain ⟨placement, hp⟩ := exists_chooses_iff.mpr hp
    exact ⟨⟨_, operation, terms, comparison, placement⟩,
      ⟨given, hentry, hne, hblank, forall₂_isTrimOf_iff.mpr rfl⟩, ho, ht, hterms, hc, hp⟩

/-! ## Further entries -/

/-- Data is read by the entries of five keys. -/
theorem ofFields_congr {fields others : Fields Value}
    (h : ∀ field : RequestField, others.get? field.label = fields.get? field.label) :
    ofFields others = ofFields fields := by
  have htexts : ∀ field, readTexts field others = readTexts field fields := fun field => by
    rw [readTexts, readTexts, h field]
  have hmember : ∀ {α : Type} field (choices : List α) label standard,
      readMember field choices label standard others =
        readMember field choices label standard fields := fun field choices label standard => by
    rw [readMember, readMember, h field]
  rw [ofFields, ofFields, readNames, readNames, readOperation, readComparison, readPlacement,
    htexts, htexts, hmember, hmember, hmember]

/-- An entry of a key is not hidden by entries of other keys. -/
theorem get?_of_inserted {p : String × Value → Prop} {fields extended : Fields Value}
    (h : Inserted p fields extended) {key : String} (hp : ∀ entry, p entry → entry.1 ≠ key) :
    extended.get? key = fields.get? key := by
  simp only [Fields.get?]
  induction h with
  | nil => rfl
  | keep entry _ ih => rw [List.lookup_cons, List.lookup_cons, ih]
  | @insert entry _ _ hentry _ ih =>
    have hne : (key == entry.1) = false := by simpa using (hp entry hentry).symm
    rw [List.lookup_cons, hne, ih]

/-- Entries of keys that no field has change nothing. -/
theorem ofFields_of_inserted {fields extended : Fields Value}
    (h : Inserted (fun entry => ∀ field : RequestField, entry.1 ≠ field.label) fields extended) :
    ofFields extended = ofFields fields :=
  ofFields_congr fun field => get?_of_inserted h fun _ hentry => hentry field

/-! ## Writing out -/

/-- The names of a request have no white space around them and are not empty. -/
theorem Names.isTrimmed {fields : Fields Value} {names given : List String}
    (h : Names fields names given) : ∀ name ∈ names, name ≠ "" ∧ Text.IsTrimmed name := by
  intro name hmem
  rw [forall₂_isTrimOf_iff.mp h.trimmed] at hmem
  obtain ⟨text, htext, rfl⟩ := List.mem_map.mp hmem
  refine ⟨fun hempty => ?_, (Text.isTrimOf_trim text).isTrimmed⟩
  have hblank := h.not_blank text htext
  rw [← Text.isEmpty_trim, hempty] at hblank
  exact absurd hblank (by decide)

/-- A well-formed request whose names are trimmed is read back from the data that it is written out
as. -/
theorem ofValue_toValue {request : Request} (hwellFormed : request.WellFormed)
    (htrimmed : ∀ name ∈ request.properties, Text.IsTrimmed name) :
    ofValue request.toValue = .ok request := by
  have hnames : request.properties.map Text.trim = request.properties :=
    (List.map_congr_left fun name hmem => Text.trim_eq_self (htrimmed name hmem)).trans
      (List.map_id' _)
  -- the choices are written out by their words, also where they are the defaults
  exact ofValue_eq_ok_iff.mpr ⟨_, rfl, ⟨request.properties, rfl, hwellFormed.properties_ne_nil,
    hwellFormed.not_blank, forall₂_isTrimOf_iff.mpr hnames.symm⟩, rfl, rfl,
    hwellFormed.terms_ne_nil, rfl, rfl⟩

/-! ## Validation as a whole -/

/-- Data is accepted as a request just where it is a map with the entries that it has to have. Then
the request is described by these entries: its names are the given ones, in order, without the white
space around them, none of them empty, its terms are the given ones, and where nothing is chosen the
default is. A request that was accepted is read back from the data that it is written out as, and
further entries, of keys that no field has, change nothing. -/
theorem accepts_well_formed_data (data : Value) :
    ((∃ request, ofValue data = .ok request) ↔ ∃ fields, data = .map fields ∧ Acceptable fields) ∧
    (∀ request, ofValue data = .ok request →
      (∃ fields, data = .map fields ∧ request.DescribedBy fields) ∧
      (∀ name ∈ request.properties, name ≠ "" ∧ Text.IsTrimmed name) ∧
      ofValue request.toValue = .ok request) ∧
    ∀ fields extended, data = .map fields →
      Inserted (fun entry => ∀ field : RequestField, entry.1 ≠ field.label) fields extended →
      ofValue (.map extended) = ofValue data := by
  refine ⟨?_, fun request h => ?_, fun fields extended hdata hinserted => ?_⟩
  · simp only [ofValue_eq_ok_iff, ← exists_describedBy_iff]
    constructor
    · rintro ⟨request, fields, hdata, hdescribed⟩
      exact ⟨fields, hdata, request, hdescribed⟩
    · rintro ⟨fields, hdata, request, hdescribed⟩
      exact ⟨request, fields, hdata, hdescribed⟩
  · obtain ⟨fields, hdata, hdescribed⟩ := ofValue_eq_ok_iff.mp h
    obtain ⟨given, hnames⟩ := hdescribed.properties
    refine ⟨⟨fields, hdata, hdescribed⟩, hnames.isTrimmed, ?_⟩
    exact ofValue_toValue (wellFormed_of_ofValue h) fun name hmem => (hnames.isTrimmed name hmem).2
  · rw [hdata, ofValue, ofValue, ofFields_of_inserted hinserted]

/-- Data with white space around a name, a blank term, a key that no field has, and no choices. -/
theorem accepts_well_formed_data_with_further_key :
    ∃ request,
      ofValue (.map [("limit", .int 3), ("terms", .list [.text " "]),
        ("properties", .list [.text "\tcity "])]) = .ok request ∧
      request = ⟨["city"], .containing, [" "], ⟨.currentCulture, false⟩, .anywhere⟩ ∧
      ofValue request.toValue = .ok request := by
  have hread : ofValue (.map [("terms", .list [.text " "]),
      ("properties", .list [.text "\tcity "])]) =
      .ok ⟨["city"], .containing, [" "], ⟨.currentCulture, false⟩, .anywhere⟩ := by decide +kernel
  obtain ⟨-, haccepted, hinserted⟩ := accepts_well_formed_data (.map [("terms", .list [.text " "]),
    ("properties", .list [.text "\tcity "])])
  have hunknown : ∀ field : RequestField, "limit" ≠ field.label := by
    intro field
    cases field <;> decide
  refine ⟨_, ?_, rfl, (haccepted _ hread).2.2⟩
  rw [hinserted _ _ rfl (.insert hunknown (.keep _ (.keep _ .nil))), hread]

end TermSearch.Request
