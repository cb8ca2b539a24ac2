import TermSearch.Text.Quoted

/-!
# Faults

Everything that can go wrong, as causes. `Fault.kind` sorts the causes by what they are
about, and `Fault.message` gives their wording.
-/

namespace TermSearch

/-- How a caller's own extractor fails. -/
inductive Failure where
  /-- The item lacks an attribute. -/
  | missingAttribute (reason : String)
  | invalidValue (reason : String)
  | missingKey (key : String)
  deriving DecidableEq, Repr

/-- The fields of a search request. -/
inductive RequestField where
  | properties
  | operation
  | terms
  | comparison
  | searchType
  deriving DecidableEq, Repr

/-- What is wrong at one place of a search request. -/
inductive Issue where
  /-- The request itself is not a map. -/
  | notMap
  | missing (field : RequestField)
  | notList (field : RequestField)
  | notText (field : RequestField) (index : Nat)
  | tooShort (field : RequestField)
  | blankName
  | notMember (field : RequestField) (choices : List String)
  deriving DecidableEq, Repr

/-- The cause of a failed operation. Names of kinds of values come from `Value.typeName`. -/
inductive Fault where
  | termsMissing
  | noTerms
  | termNotText (type : String)
  | blankTerms
  | termsNotIterable (type : String)
  | noProperties
  | blankProperty
  | invalidSelector (type : String)
  | unknownComparison (given : String)
  | unknownPlacement (given : String)
  | unknownLevel (given : String)
  | levelNotText (type : String)
  | invalidFormat (format : String)
  /-- A value for the context of a logger goes by the name of the logger itself. -/
  | contextNameTaken (name : String)
  /-- An item lacks what a property is read from. -/
  | unreadable (property reason : String)
  /-- A property read as something other than a text. -/
  | propertyNotText (property type : String)
  | notIterable (type : String)
  | negativeHits
  | hitsNotNumeric (type : String)
  | failed (failure : Failure)
  | invalidRequest (issues : List Issue)
  | unboundName (name : String)
  deriving DecidableEq, Repr, Inhabited

/-- What a fault is about. -/
inductive FaultKind where
  | validation
  | search
  | configuration
  | type
  | value
  | key
  | attribute
  | request
  | name
  deriving DecidableEq, Repr

/-- The kind of a caller's failure. -/
def Failure.kind : Failure → FaultKind
  | missingAttribute _ => .attribute
  | invalidValue _ => .value
  | missingKey _ => .key

/-- The wording of a caller's failure. -/
def Failure.message : Failure → String
  | missingAttribute reason => reason
  | invalidValue reason => reason
  | missingKey key => Text.quoted key

namespace Fault

/-- The kind of a fault. -/
def kind : Fault → FaultKind
  | termsMissing | noTerms | termNotText _ | blankTerms | termsNotIterable _ => .validation
  | noProperties | blankProperty | invalidSelector _ => .validation
  | unknownComparison _ | unknownPlacement _ | unknownLevel _ => .configuration
  | levelNotText _ => .attribute
  | invalidFormat _ => .value
  | contextNameTaken _ => .type
  | unreadable _ _ | propertyNotText _ _ => .search
  | notIterable _ => .type
  | negativeHits => .value
  | hitsNotNumeric _ => .type
  | failed failure => failure.kind
  | invalidRequest _ => .request
  | unboundName _ => .name

/-- What is said of a value that cannot be gone through. -/
def notIterableText (type : String) : String :=
  "'" ++ type ++ "' object is not iterable"

/-- What is said of a value that lacks an attribute. -/
def noAttributeText (type name : String) : String :=
  "'" ++ type ++ "' object has no attribute '" ++ name ++ "'"

/-- The wording of a fault. -/
def message : Fault → String
  | termsMissing => "Search terms are required"
  | noTerms => "At least one search term is required"
  | termNotText type => "Search terms must be strings, got " ++ type
  | blankTerms => "Search terms cannot all be empty or whitespace only"
  | termsNotIterable type => "Search term validation failed: " ++ notIterableText type
  | noProperties => "At least one property to search is required"
  | blankProperty => "Property names cannot be empty"
  | invalidSelector type => "Property selector must be a name or a callable, got " ++ type
  | unknownComparison given => "Unknown string comparison: " ++ given
  | unknownPlacement given => "Unknown search type: " ++ given
  | unknownLevel given => "Unknown logging level: " ++ given
  | levelNotText type => noAttributeText type "upper"
  | invalidFormat format => "Invalid format '" ++ format ++ "' for '%' style"
  | contextNameTaken name =>
    "StructuredLogger.with_context() got multiple values for argument '" ++ name ++ "'"
  | unreadable property reason =>
    "Failed to read search property '" ++ property ++ "': " ++ reason
  | propertyNotText property type =>
    "Property '" ++ property ++ "' returned " ++ type ++ ", expected str"
  | notIterable type => notIterableText type
  | negativeHits => "Hits cannot be negative"
  | hitsNotNumeric type => "'<' not supported between instances of '" ++ type ++ "' and 'int'"
  | failed failure => failure.message
  | invalidRequest issues => toString issues.length ++ " issues in the request"
  | unboundName name => name

end Fault

end TermSearch
