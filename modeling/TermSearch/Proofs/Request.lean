import TermSearch.Proofs.Search.Beginning
import TermSearch.Proofs.Search.Observation
import TermSearch.Proofs.Text.Blank
import TermSearch.Request

/-!
# Accepted Requests

What it means for a request that its data was accepted, and how such a request can fail when it is
put to work. Data is judged field by field, by rules of its own; a search judges its properties, its
settings and the terms of its calls once more. An accepted request passes all of this but for one
thing: data with nothing but blank terms is accepted, and only equality has a use for those.

## Main definitions

- `Request.WellFormed`: what is known of an accepted request.

## Main statements

- `Request.wellFormed_of_ofValue`: requests that are read from data are well-formed.
- `Request.apply_result`: a well-formed request is a search begun over its properties, and one call.
- `Request.fails_on_blank_terms_only`: how an accepted request fails, and what it does otherwise.
-/

namespace TermSearch

open Text (Placement)

namespace Request

/-! ## Reading -/

/-- No element is at fault where all of them are texts. -/
theorem textIssues_eq_nil_iff {field : RequestField} {index : Nat} {elements : List Value} :
    textIssues field index elements = [] ↔ ∃ texts : List String, elements = texts.map .text := by
  induction elements generalizing index with
  | nil => simp [textIssues]
  | cons v rest ih =>
    cases v with
    | text s =>
      rw [textIssues, ih]
      constructor
      · rintro ⟨texts, rfl⟩
        exact ⟨s :: texts, rfl⟩
      · rintro ⟨texts, htexts⟩
        cases texts with
        | nil => simp at htexts
        | cons first texts => exact ⟨texts, (List.cons.inj htexts).2⟩
    | _ =>
      refine iff_of_false (by simp [textIssues]) ?_
      rintro ⟨texts, htexts⟩
      cases texts <;> simp at htexts

/-- The texts among texts are all of them. -/
theorem textsOf_map_text (texts : List String) : textsOf (texts.map .text) = texts := by
  rw [textsOf, List.filterMap_map]
  exact List.filterMap_some

/-- Texts are read from a field that holds them in a list that is not empty. -/
theorem readTexts_eq_ok_iff {field : RequestField} {fields : Fields Value} {texts : List String} :
    readTexts field fields = .ok texts ↔
      fields.get? field.label = some (.list (texts.map .text)) ∧ texts ≠ [] := by
  rw [readTexts]
  cases hfield : fields.get? field.label with
  | none => simp
  | some v =>
    cases v with
    | list elements =>
      by_cases hempty : elements = []
      · subst hempty
        constructor
        · simp
        · rintro ⟨heq, hne⟩
          cases texts <;> simp_all
      · simp only [List.isEmpty_iff, hempty, if_false]
        -- a list without issues holds texts only, and these are what is read
        cases hissues : textIssues field 0 elements with
        | nil =>
          obtain ⟨read, rfl⟩ := textIssues_eq_nil_iff.mp hissues
          have hread : read ≠ [] := by simpa using hempty
          rw [textsOf_map_text]
          constructor
          · rintro ⟨⟩
            exact ⟨rfl, hread⟩
          · rintro ⟨heq, -⟩
            have heq' : read.map Value.text = texts.map Value.text := by simpa using heq
            rw [List.map_injective_iff.mpr (fun _ _ => Value.text.inj) heq']
        | cons issue issues =>
          refine iff_of_false (by simp) ?_
          rintro ⟨heq, -⟩
          have hnil := (@textIssues_eq_nil_iff field 0 elements).mpr ⟨texts, by simpa using heq⟩
          rw [hissues] at hnil
          simp at hnil
    | _ => simp

/-- Names are read as texts that are not blank, and kept without the white space at their ends. -/
theorem readNames_eq_ok_iff {fields : Fields Value} {names : List String} :
    readNames fields = .ok names ↔
      ∃ given, readTexts .properties fields = .ok given ∧ names = given.map Text.trim ∧
        ∀ name ∈ names, name.isEmpty = false := by
  rw [readNames]
  cases readTexts .properties fields with
  | error issues => simp
  | ok given =>
    simp only [Except.ok.injEq, exists_eq_left']
    split
    · next hblank =>
      refine iff_of_false (by simp) ?_
      rintro ⟨rfl, hnames⟩
      obtain ⟨name, hmem, hempty⟩ := List.any_eq_true.mp hblank
      rw [hnames name hmem] at hempty
      exact Bool.noConfusion hempty
    · next hblank =>
      have hnames : ∀ name ∈ given.map Text.trim, name.isEmpty = false := by
        simpa using hblank
      constructor
      · intro h
        obtain rfl := Except.ok.inj h
        exact ⟨rfl, hnames⟩
      · rintro ⟨rfl, -⟩
        rfl

/-- A request is read where each of its fields is. -/
theorem ofFields_eq_ok_iff {fields : Fields Value} {request : Request} :
    ofFields fields = .ok request ↔
      readNames fields = .ok request.properties ∧ readOperation fields = .ok request.operation ∧
        readTexts .terms fields = .ok request.terms ∧
        readComparison fields = .ok request.comparison ∧
        readPlacement fields = .ok request.placement := by
  obtain ⟨properties, operation, terms, comparison, placement⟩ := request
  rw [ofFields]
  cases readNames fields <;> cases readOperation fields <;> cases readTexts .terms fields <;>
    cases readComparison fields <;> cases readPlacement fields <;> simp

/-! ## Well-formed requests -/

/-- A request has properties, none of which has a blank name, and terms. -/
structure WellFormed (request : Request) : Prop where
  properties_ne_nil : request.properties ≠ []
  not_blank : ∀ name ∈ request.properties, Text.isBlank name = false
  terms_ne_nil : request.terms ≠ []

/-- Requests that are read from data are well-formed. -/
theorem wellFormed_of_ofValue {data : Value} {request : Request} (h : ofValue data = .ok request) :
    request.WellFormed := by
  cases data with
  | map fields =>
    obtain ⟨hnames, -, hterms, -, -⟩ := ofFields_eq_ok_iff.mp h
    obtain ⟨given, hgiven, hproperties, hempty⟩ := readNames_eq_ok_iff.mp hnames
    refine ⟨?_, fun name hmem => ?_, (readTexts_eq_ok_iff.mp hterms).2⟩
    · rw [hproperties]
      simpa using (readTexts_eq_ok_iff.mp hgiven).2
    · have hname := hempty name hmem
      rw [hproperties] at hmem
      obtain ⟨text, -, rfl⟩ := List.mem_map.mp hmem
      exact (Text.isTrimOf_trim text).isTrimmed.isBlank_eq hname
  | _ => simp [ofValue] at h

/-! ## Applying -/

/-- The stage that a request begins with. -/
def stage (request : Request) : Stage :=
  ⟨request.properties.map .named, request.comparison, request.placement, []⟩

/-- The call that a request makes. -/
def call (request : Request) : Call :=
  .filter request.operation (request.terms.map .text)

/-- The properties of a well-formed request can be searched over, and its settings are known. -/
theorem WellFormed.ofSelectors {request : Request} (h : request.WellFormed)
    {comparison placement : Value}
    (hcomparison : Comparison.ofValue comparison = .ok request.comparison)
    (hplacement : Placement.ofValue placement = .ok request.placement) :
    Stage.ofSelectors (request.properties.map .named) comparison placement = .ok request.stage :=
  Stage.ofSelectors_names h.properties_ne_nil h.not_blank hcomparison hplacement

/-- A well-formed request comes to what its call makes of a search that begins with its stage. -/
theorem apply_result {request : Request} (h : request.WellFormed) (starting : Stage → Search) :
    (request.apply starting).result = ((starting request.stage).call request.call).result := by
  -- the words of the settings are read back as the settings
  have hbegun : Stage.ofSelectors (request.properties.map .named) (.text request.comparison.label)
      (.text request.placement.label) = .ok request.stage :=
    h.ofSelectors (Comparison.ofValue_label _) (Placement.ofValue_label _)
  rw [apply, hbegun, Traced.bind_of_result_ok (Traced.result_ofExcept _),
    Traced.bind_of_result_ok (Traced.result_record _)]
  rfl

/-- The only fault that the call of a well-formed request comes to. -/
theorem WellFormed.fault?_call {request : Request} (h : request.WellFormed) :
    request.call.fault? =
      if request.operation ≠ .equalTo ∧ ∀ term ∈ request.terms, Text.isBlank term = true then
        some .blankTerms
      else none := by
  have hkeeps : request.operation.keepsBlank = false ↔ request.operation ≠ .equalTo := by
    simp [Operation.keepsBlank]
  rw [call, Call.fault?_filter_map_text _ h.terms_ne_nil]
  simp only [hkeeps, Terms.nonBlank_eq_nil_iff]

/-- A request that was accepted fails where its operation is not equality and all its terms are
blank, whatever it is applied to, and it fails for just that. Where it does not fail, it comes to a
search that nothing tells apart from the one that is begun over its properties, with its comparison
and its placement, and derived by the call of its operation on its terms. -/
theorem fails_on_blank_terms_only {data : Value} {request : Request}
    (h : ofValue data = .ok request) (starting : Stage → Search) :
    ((∃ fault, (request.apply starting).result = .error fault) ↔
      request.operation ≠ .equalTo ∧ ∀ term ∈ request.terms, Text.isBlank term = true) ∧
    (∀ fault, (request.apply starting).result = .error fault →
      fault.kind = .validation ∧
      fault.message = "Search terms cannot all be empty or whitespace only") ∧
    ∀ s comparison placement, (request.apply starting).result = .ok s →
      Comparison.ofValue comparison = .ok request.comparison →
      Placement.ofValue placement = .ok request.placement →
      ∃ stage built,
        Stage.ofSelectors (request.properties.map .named) comparison placement = .ok stage ∧
        ((starting stage).callAll
          [.filter request.operation (request.terms.map .text)]).result = .ok built ∧
        s.ObservedAlike built := by
  have hformed := wellFormed_of_ofValue h
  have hresult := apply_result hformed starting
  have hfault := hformed.fault?_call
  rw [Search.call_result] at hresult
  by_cases hblank : request.operation ≠ .equalTo ∧ ∀ term ∈ request.terms, Text.isBlank term = true
  · -- no term is left for the call
    rw [if_pos hblank] at hfault
    have hfails : (request.apply starting).result = .error .blankTerms := by
      rw [hresult, hfault]
    rw [hfails]
    refine ⟨iff_of_true ⟨_, rfl⟩ hblank, fun fault heq => ?_, fun s _ _ hs => nomatch hs⟩
    obtain rfl := Except.error.inj heq
    exact ⟨rfl, rfl⟩
  · -- the call succeeds, and so does the one on the search that is begun from the fields
    rw [if_neg hblank] at hfault
    have hsucceeds : (request.apply starting).result =
        .ok ⟨(starting request.stage).own.after [request.call],
          (starting request.stage).below⟩ := by
      rw [hresult, hfault]
    rw [hsucceeds]
    refine ⟨iff_of_false (by simp) hblank, by simp,
      fun s comparison placement hs hcomparison hplacement => ?_⟩
    obtain rfl := Except.ok.inj hs
    refine ⟨request.stage, _, hformed.ofSelectors hcomparison hplacement, ?_,
      Search.observedAlike_of_eq rfl rfl rfl⟩
    exact Search.callAll_result_eq_ok_iff.mpr ⟨by simpa [call] using hfault, rfl⟩

/-- A request whose name has white space around it, on terms of which one is blank, comes to the
search for the other term. -/
theorem fails_on_blank_terms_only_of_padded_name :
    ∃ request s stage built,
      ofValue (.map [("properties", .list [.text " city "]), ("operation", .text "ends_with"),
        ("terms", .list [.text " ", .text "don"])]) = .ok request ∧
      (request.apply Search.start).result = .ok s ∧
      Stage.ofSelectors [.named "city"] (.text Comparison.standard.label)
        (.text Placement.standard.label) = .ok stage ∧
      ((Search.start stage).callAll [.filter .endingWith [.text " ", .text "don"]]).result =
        .ok built ∧
      s.ObservedAlike built := by
  have hread : ofValue (.map [("properties", .list [.text " city "]),
      ("operation", .text "ends_with"), ("terms", .list [.text " ", .text "don"])]) =
      .ok ⟨["city"], .endingWith, [" ", "don"], .standard, .standard⟩ := by decide +kernel
  obtain ⟨hfails, -, hsearch⟩ := fails_on_blank_terms_only hread Search.start
  cases hresult : (Request.apply ⟨["city"], .endingWith, [" ", "don"], .standard, .standard⟩
      Search.start).result with
  | error fault =>
    have hblank := (hfails.mp ⟨fault, hresult⟩).2 "don" (by simp)
    exact absurd hblank (by decide)
  | ok s =>
    obtain ⟨stage, built, hstage, hbuilt, halike⟩ :=
      hsearch s _ _ hresult (Comparison.ofValue_label _) (Placement.ofValue_label _)
    exact ⟨_, s, stage, built, hread, hresult, hstage, hbuilt, halike⟩

end Request

end TermSearch
