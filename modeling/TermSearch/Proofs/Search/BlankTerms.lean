import TermSearch.Proofs.Insertion
import TermSearch.Proofs.Search.Filtering

/-!
# Blank Terms

Validation drops blank terms before anything is made of the terms of a call: neither the condition
that the call adds, nor what the call logs, tells that they were there. So a chain of calls comes to
the same search with and without blank terms in it, as long as every call has a term that is not
blank. Only equality keeps blank terms, and then they are terms like others.

## Main definitions

- `Terms.Padded`: blank texts are put in among terms.
- `Call.Padded`: the same for the terms of a call that drops them.

## Main statements

- `Search.callAll_of_padded`: calls in a row with and without blank terms.
- `Search.blank_terms_are_inert`: what validation makes of any value, and what blank terms change.
-/

namespace TermSearch

namespace Terms

/-- Blank texts are put in among terms, any number of them and anywhere. -/
def Padded (terms padded : List String) : Prop :=
  Inserted (fun text => Text.isBlank text = true) terms padded

/-- Validation gives the same terms with and without blank texts among them, if it drops these. -/
theorem Padded.validate_eq {terms padded : List String} (h : Padded terms padded)
    (hsome : ∃ term ∈ terms, Text.isBlank term = false) :
    validate false (.list (padded.map .text)) = .ok (Text.nonBlank terms) ∧
      validate false (.list (terms.map .text)) = .ok (Text.nonBlank terms) := by
  have hne := nonBlank_ne_nil_iff.mpr hsome
  have hsame : Text.nonBlank padded = Text.nonBlank terms :=
    Inserted.filter_eq h fun text hblank => by simp [hblank]
  exact ⟨validate_eq_ok_iff.mpr ⟨padded, rfl, hsame.symm, hne⟩,
    validate_eq_ok_iff.mpr ⟨terms, rfl, rfl, hne⟩⟩

/-- What validation gives is found usable as it is. -/
theorem validate_map_text_of_validate {keepsBlank : Bool} {v : Value} {kept : List String}
    (h : validate keepsBlank v = .ok kept) :
    validate keepsBlank (.list (kept.map .text)) = .ok kept := by
  obtain ⟨terms, -, rfl, hne⟩ := validate_eq_ok_iff.mp h
  refine validate_eq_ok_iff.mpr ⟨_, rfl, ?_, hne⟩
  cases keepsBlank with
  | true => rfl
  | false => simp [Text.nonBlank]

/-- Validation gives terms for a value that can be gone through and has elements, all of which are
texts, and some of which is not blank, unless blank ones are kept. -/
theorem exists_validate_eq_ok_iff {keepsBlank : Bool} {v : Value} :
    (∃ kept, validate keepsBlank v = .ok kept) ↔
      ∃ elements, v.elements? = some elements ∧ elements ≠ [] ∧
        (∀ element ∈ elements, ∃ term, element = .text term) ∧
        (keepsBlank = true ∨ ∃ term, .text term ∈ elements ∧ Text.isBlank term = false) := by
  have hkept : ∀ terms : List String,
      (if keepsBlank then terms else Text.nonBlank terms) ≠ [] ↔
        terms ≠ [] ∧ (keepsBlank = true ∨ ∃ term ∈ terms, Text.isBlank term = false) := by
    intro terms
    cases keepsBlank with
    | true => simp
    | false =>
      simp only [Bool.false_eq_true, if_false, false_or, nonBlank_ne_nil_iff]
      exact ⟨fun ⟨term, hterm, hblank⟩ => ⟨List.ne_nil_of_mem hterm, term, hterm, hblank⟩,
        And.right⟩
  constructor
  · rintro ⟨kept, h⟩
    obtain ⟨terms, helements, rfl, hne⟩ := validate_eq_ok_iff.mp h
    obtain ⟨hterms, hsome⟩ := (hkept terms).mp hne
    exact ⟨_, helements, by simpa using hterms, by simp, by simpa using hsome⟩
  · rintro ⟨elements, helements, hne, htexts, hsome⟩
    obtain ⟨terms, rfl⟩ := exists_eq_map_text_iff.mpr htexts
    exact ⟨_, validate_eq_ok_iff.mpr ⟨terms, helements, rfl,
      (hkept terms).mpr ⟨by simpa using hne, by simpa using hsome⟩⟩⟩

/-- What is wrong with a value that gives no terms is a matter of validation. -/
theorem Unusable.kind_eq {keepsBlank : Bool} {v : Value} {fault : Fault}
    (h : Unusable keepsBlank v fault) : fault.kind = .validation := by
  cases h <;> rfl

end Terms

/-! ## Calls -/

/-- Blank terms are put in among the terms of a call that drops them and has another one. -/
inductive Call.Padded : Call → Call → Prop where
  /-- A call stays as it is. -/
  | refl (call : Call) : Padded call call
  /-- A call has further terms. -/
  | filter {operation : Operation} {terms padded : List String} (hoperation : operation ≠ .equalTo)
      (hterms : Terms.Padded terms padded) (hsome : ∃ term ∈ terms, Text.isBlank term = false) :
      Padded (.filter operation (terms.map .text)) (.filter operation (padded.map .text))

namespace Search

/-- A call with and without blank terms does the same: it logs the same, and adds the condition on
the terms that are not blank. -/
theorem filter_of_padded (s : Search) {operation : Operation} {terms padded : List String}
    (hoperation : operation ≠ .equalTo) (hterms : Terms.Padded terms padded)
    (hsome : ∃ term ∈ terms, Text.isBlank term = false) :
    s.filter operation (padded.map .text) = s.filter operation (terms.map .text) ∧
      (s.filter operation (terms.map .text)).result =
        .ok (s.addCondition (s.condition operation (Text.nonBlank terms))) := by
  have hkeeps : operation.keepsBlank = false := by simpa [Operation.keepsBlank] using hoperation
  obtain ⟨hpadded, hplain⟩ := hterms.validate_eq hsome
  rw [filter_of_validate (hkeeps ▸ hpadded), filter_of_validate (hkeeps ▸ hplain)]
  exact ⟨rfl, rfl⟩

/-- Any call that drops blank terms does the same with and without them. -/
theorem call_of_padded {call padded : Call} (h : call.Padded padded) (s : Search) :
    s.call padded = s.call call := by
  cases h with
  | refl => rfl
  | filter hoperation hterms hsome => exact (s.filter_of_padded hoperation hterms hsome).1

/-- Calls in a row do the same with and without blank terms. -/
theorem callAll_of_padded {calls padded : List Call} (h : List.Forall₂ Call.Padded calls padded)
    (s : Search) : s.callAll padded = s.callAll calls := by
  -- on the calls, the same call being made on the same search each time
  induction h generalizing s with
  | nil => rfl
  | cons hcall _ ih => rw [callAll, callAll, call_of_padded hcall, funext ih]

/-- A search with one more condition accepts what the search accepts and the condition holds for. -/
theorem accepts_addCondition_eq_ok_true_iff {s : Search} {condition : Condition} {item : Value} :
    ((s.addCondition condition).accepts item).result = .ok true ↔
      (s.accepts item).result = .ok true ∧
        condition.verdict s.own.accessors item = .ok true := by
  simp only [accepts_result_eq_ok_true_iff, stages, addCondition, List.forall_mem_cons,
    Stage.verdict, Verdict.every_map_eq_ok_true_iff, List.forall_mem_append, List.not_mem_nil,
    IsEmpty.forall_iff, implies_true, and_true]
  exact and_right_comm

/-- A call for equality adds a condition on all of its terms, and an item satisfies the condition
where it has a text that is one of them. -/
theorem filter_equalTo (s : Search) {terms : List String} (hne : terms ≠ []) :
    (s.filter .equalTo (terms.map .text)).result =
        .ok (s.addCondition (s.condition .equalTo terms)) ∧
      ∀ item, s.own.Readable item →
        (((s.addCondition (s.condition .equalTo terms)).accepts item).result = .ok true ↔
          (s.accepts item).result = .ok true ∧
            ∃ term ∈ terms, ∃ text ∈ s.own.texts item,
              s.own.comparison.normalForm text.toList =
                s.own.comparison.normalForm term.toList) := by
  have hvalid : Terms.validate Operation.equalTo.keepsBlank (.list (terms.map .text)) = .ok terms :=
    Terms.validate_eq_ok_iff.mpr ⟨terms, rfl, rfl, hne⟩
  refine ⟨congrArg Traced.result (filter_of_validate hvalid), fun item hread => ?_⟩
  -- all terms are usable for equality, so the condition asks for each of them
  have husable : Terms.usable Operation.equalTo.keepsBlank (terms.map .text) = terms :=
    Terms.usable_map_text true terms
  have hholds := @Condition.holdsOn_eq_true_iff .equalTo (terms.map .text) s.own.comparison
    s.own.placement (s.own.texts item)
  rw [husable] at hholds
  rw [accepts_addCondition_eq_ok_true_iff, Condition.verdict_of_readable hread]
  simp only [Except.ok.injEq]
  refine and_congr_right fun _ => hholds.trans ?_
  simp [Operation.Asks, Operation.Matches]

/-- Validation finds the terms that a value gives, or what is wrong with it. It gives terms for a
value that can be gone through and has elements, all of which are texts, some of them not blank
unless blank ones are kept; these are all elements or those that are not blank, and they are given
again where they are validated themselves. Otherwise there is a fault of validation, and an element
that is no text is found before blank ones are. So calls in a row, each with a term that is not
blank, do the same with and without blank terms: they log the same and come to the very same search,
which reads the same properties, yields the same items and gives them the same hits on any source.
Only a call for equality keeps all of its terms, and an item has to have a text that is one of
them. -/
theorem blank_terms_are_inert :
    (∀ keepsBlank v,
      (∀ fault, Terms.validate keepsBlank v = .error fault →
        fault.kind = .validation ∧ Terms.Unusable keepsBlank v fault) ∧
      ((∃ kept, Terms.validate keepsBlank v = .ok kept) ↔
        ∃ elements, v.elements? = some elements ∧ elements ≠ [] ∧
          (∀ element ∈ elements, ∃ term, element = .text term) ∧
          (keepsBlank = true ∨ ∃ term, .text term ∈ elements ∧ Text.isBlank term = false)) ∧
      (∀ (before : List String) (bad : Value) (after : List Value),
        v.elements? = some (before.map .text ++ bad :: after) → (∀ term, bad ≠ .text term) →
        Terms.validate keepsBlank v = .error (.termNotText bad.typeName)) ∧
      ∀ kept, Terms.validate keepsBlank v = .ok kept →
        (∃ terms : List String, v.elements? = some (terms.map .text) ∧
          kept = if keepsBlank then terms else terms.filter fun term => !Text.isBlank term) ∧
        Terms.validate keepsBlank (.list (kept.map .text)) = .ok kept) ∧
    (∀ (s : Search) operation terms padded, operation ≠ .equalTo → Terms.Padded terms padded →
      (∃ term ∈ terms, Text.isBlank term = false) →
      ∃ made, (s.call (.filter operation (terms.map .text))).result = .ok made ∧
        (s.call (.filter operation (padded.map .text))).result = .ok made) ∧
    (∀ (s : Search) calls padded, List.Forall₂ Call.Padded calls padded →
      s.callAll padded = s.callAll calls) ∧
    ∀ (s : Search) (terms : List String), terms ≠ [] →
      ∃ made, (s.call (.filter .equalTo (terms.map .text))).result = .ok made ∧
        made = s.addCondition (s.condition .equalTo terms) ∧
        ∀ item, s.own.Readable item →
          ((made.accepts item).result = .ok true ↔ (s.accepts item).result = .ok true ∧
            ∃ term ∈ terms, ∃ text ∈ s.own.texts item,
              s.own.comparison.normalForm text.toList =
                s.own.comparison.normalForm term.toList) := by
  refine ⟨fun keepsBlank v => ⟨fun fault h => ?_, Terms.exists_validate_eq_ok_iff,
      fun before bad after helements hbad => ?_, fun kept h => ⟨?_, ?_⟩⟩,
    fun s operation terms padded hoperation hterms hsome => ?_,
    fun s calls padded h => callAll_of_padded h s, fun s terms hne => ?_⟩
  · have hunusable := Terms.validate_eq_error_iff.mp h
    exact ⟨hunusable.kind_eq, hunusable⟩
  · refine Terms.validate_eq_error_iff.mpr (.notText before after helements ?_)
    cases bad with
    | text term => exact absurd rfl (hbad term)
    | _ => rfl
  · obtain ⟨terms, helements, hkept, -⟩ := Terms.validate_eq_ok_iff.mp h
    exact ⟨terms, helements, hkept⟩
  · exact Terms.validate_map_text_of_validate h
  · obtain ⟨hsame, hmade⟩ := s.filter_of_padded hoperation hterms hsome
    exact ⟨_, hmade, (congrArg Traced.result hsame).trans hmade⟩
  · obtain ⟨hmade, haccepts⟩ := s.filter_equalTo hne
    exact ⟨_, hmade, rfl, haccepts⟩

/-- A call with blank terms on both sides of a name, and an element that is no text behind a blank
one. -/
theorem blank_terms_are_inert_around_name :
    (∃ made,
      ((start ⟨[.named "name"], .standard, .anywhere, []⟩).call
        (.filter .containing [.text "ann"])).result = .ok made ∧
      ((start ⟨[.named "name"], .standard, .anywhere, []⟩).call
        (.filter .containing [.text "", .text "ann", .text " \t"])).result = .ok made) ∧
      Terms.validate false (.list [.text " ", .int 3, .null]) = .error (.termNotText "int") := by
  obtain ⟨hvalidate, hsame, -, -⟩ := blank_terms_are_inert
  have hpadded : Terms.Padded ["ann"] ["", "ann", " \t"] :=
    .insert (by decide +kernel) (.keep "ann" (.insert (by decide +kernel) .nil))
  have hsome : ∃ term ∈ ["ann"], Text.isBlank term = false := ⟨"ann", by simp, by decide +kernel⟩
  refine ⟨hsame _ .containing _ _ (by decide) hpadded hsome, ?_⟩
  exact (hvalidate false _).2.2.1 [" "] (.int 3) [.null] rfl (by simp)

end Search

end TermSearch
