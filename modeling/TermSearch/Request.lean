import TermSearch.Search.Basic

/-!
# Search Requests

A search of one condition, described by data: the names of the properties, the operation, the
terms, the comparison and the placement. Data is read field by field, and all that is wrong
with it is reported at once, in the order of the fields.

## Main definitions

- `Request.ofValue`: the request that data describes, or what is wrong with it.
- `Request.toValue`: the data that describes a request.
- `Request.apply`: the search that a request asks for.
-/

namespace TermSearch

open Text (Placement)

/-- A search of one condition. -/
structure Request where
  properties : List String
  operation : Operation
  terms : List String
  comparison : Comparison
  placement : Placement
  deriving DecidableEq, Repr

/-- The name of a field in the data. -/
def RequestField.label : RequestField → String
  | properties => "properties"
  | operation => "operation"
  | terms => "terms"
  | comparison => "comparison"
  | searchType => "search_type"

namespace Issue

/-- The short name of an issue. -/
def code : Issue → String
  | notMap => "model_type"
  | missing _ => "missing"
  | notList _ => "list_type"
  | notText _ _ => "string_type"
  | tooShort _ => "too_short"
  | blankName => "value_error"
  | notMember _ _ => "enum"

/-- Where in the data the issue is: a field, and perhaps an element of it. -/
def location : Issue → List (String ⊕ Nat)
  | notMap => []
  | missing field | notList field | tooShort field | notMember field _ => [.inl field.label]
  | notText field index => [.inl field.label, .inr index]
  | blankName => [.inl RequestField.properties.label]

/-- Choices in a row, quoted, the last one behind the word "or". -/
def listChoices : List String → String
  | [] => ""
  | [choice] => Text.quoted choice
  | [choice, last] => Text.quoted choice ++ " or " ++ Text.quoted last
  | choice :: next :: rest => Text.quoted choice ++ ", " ++ listChoices (next :: rest)

/-- The wording of an issue. -/
def message : Issue → String
  | notMap => "Input should be a valid dictionary or instance of SearchRequest"
  | missing _ => "Field required"
  | notList _ => "Input should be a valid list"
  | notText _ _ => "Input should be a valid string"
  | tooShort _ => "List should have at least 1 item after validation, not 0"
  | blankName => "Value error, Property names cannot be empty or whitespace only"
  | notMember _ choices => "Input should be " ++ listChoices choices

end Issue

namespace Request

/-- The result of reading a field: its content, or what is wrong with it. -/
abbrev Reading (α : Type) := Except (List Issue) α

/-- What is wrong with a field. -/
def issuesOf {α : Type} : Reading α → List Issue
  | .ok _ => []
  | .error issues => issues

/-- The issues of the elements that are no texts, where `index` is the place of the first. -/
def textIssues (field : RequestField) (index : Nat) : List Value → List Issue
  | [] => []
  | .text _ :: rest => textIssues field (index + 1) rest
  | _ :: rest => .notText field index :: textIssues field (index + 1) rest

/-- The elements that are texts. -/
def textsOf (elements : List Value) : List String :=
  elements.filterMap fun
    | .text s => some s
    | _ => none

/-- Reads a list of texts that has to be there and must not be empty. -/
def readTexts (field : RequestField) (fields : Fields Value) : Reading (List String) :=
  match fields.get? field.label with
  | none => .error [.missing field]
  | some (.list elements) =>
    if elements.isEmpty then .error [.tooShort field]
    else
      match textIssues field 0 elements with
      | [] => .ok (textsOf elements)
      | issues => .error issues
  | some _ => .error [.notList field]

/-- Reads the names of the properties, without the white space around them. -/
def readNames (fields : Fields Value) : Reading (List String) :=
  match readTexts .properties fields with
  | .ok names =>
    let trimmed := names.map Text.trim
    if trimmed.any String.isEmpty then .error [.blankName] else .ok trimmed
  | .error issues => .error issues

/-- Reads a field that holds one of a few words and need not be there. -/
def readMember {α : Type} (field : RequestField) (choices : List α) (label : α → String)
    (standard : α) (fields : Fields Value) : Reading α :=
  match fields.get? field.label with
  | none => .ok standard
  | some (.text word) =>
    match choices.find? fun choice => label choice == word with
    | some choice => .ok choice
    | none => .error [.notMember field (choices.map label)]
  | some _ => .error [.notMember field (choices.map label)]

/-- Reads the operation. -/
def readOperation : Fields Value → Reading Operation :=
  readMember .operation Operation.all Operation.label Operation.standard

/-- Reads the comparison. -/
def readComparison : Fields Value → Reading Comparison :=
  readMember .comparison Comparison.all Comparison.label Comparison.standard

/-- Reads the placement. -/
def readPlacement : Fields Value → Reading Placement :=
  readMember .searchType Placement.all Placement.label Placement.standard

/-- Reads a request from the fields of its data. -/
def ofFields (fields : Fields Value) : Reading Request :=
  match readNames fields, readOperation fields, readTexts .terms fields,
      readComparison fields, readPlacement fields with
  | .ok properties, .ok operation, .ok terms, .ok comparison, .ok placement =>
    .ok ⟨properties, operation, terms, comparison, placement⟩
  | properties, operation, terms, comparison, placement =>
    .error (issuesOf properties ++ issuesOf operation ++ issuesOf terms ++
      issuesOf comparison ++ issuesOf placement)

/-- Reads a request from its data. -/
def ofValue : Value → Reading Request
  | .map fields => ofFields fields
  | _ => .error [.notMap]

/-- The data that describes a request. -/
def toValue (request : Request) : Value :=
  .map [
    (RequestField.properties.label, .list (request.properties.map .text)),
    (RequestField.operation.label, .text request.operation.label),
    (RequestField.terms.label, .list (request.terms.map .text)),
    (RequestField.comparison.label, .text request.comparison.label),
    (RequestField.searchType.label, .text request.placement.label)]

/-- The logger of requests. -/
def loggerName : String := "fluent_search.models.request"

/-- The record of a request that is put to work. -/
def logRecord (request : Request) : LogRecord :=
  ⟨.debug, loggerName, "Applying " ++ request.operation.label ++ " over " ++
    toString request.properties.length ++ " properties"⟩

/-- The search that a request asks for; `starting` makes its stage into a search
  over the items. -/
def apply (request : Request) (starting : Stage → Search) : Traced Event Search := do
  let stage ← Traced.ofExcept (Stage.ofSelectors (request.properties.map .named)
    (.text request.comparison.label) (.text request.placement.label))
  Traced.record (.logged request.logRecord)
  (starting stage).filter request.operation (request.terms.map .text)

end Request

end TermSearch
