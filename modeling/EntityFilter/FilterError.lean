import EntityFilter.Request.Fault

/-!
Why filters cannot be configured or emitted: the causes, a stable code for each, and the words.
-/

namespace EntityFilter

/-- The use that a field is put to. -/
inductive Usage where
  | equality
  | ordering
  | range
  | membership
  | patternMatch
  | nullCheck
  | freeTextSearch
  deriving DecidableEq, Repr

def Usage.label : Usage → String
  | equality => "equality"
  | ordering => "ordering"
  | range => "range"
  | membership => "membership"
  | patternMatch => "pattern match"
  | nullCheck => "null check"
  | freeTextSearch => "free-text search"

/-- What makes a criterion unusable for every kind of field, or for the kind at hand. -/
inductive CriterionDefect where
  | nullOrdering
  | nullBound
  | emptyList
  | nullInList
  | misfit (typeName : String) (kind : Kind)
  deriving DecidableEq, Repr

def CriterionDefect.message : CriterionDefect → String
  | nullOrdering => "NULL has no ordering"
  | nullBound => "range bounds cannot be NULL"
  | emptyList => "IN list is empty"
  | nullInList => "IN list cannot contain NULL"
  | misfit typeName kind => s!"{typeName} value does not match field kind {kind}"

inductive FilterError where
  | missingSchema (entity : String)
  | missingSearchTerms
  | noSearchableFields
  | missingDialect
  | unsupportedFieldKind (field : String) (kind : Kind) (usage : Usage)
  | unsupportedCriterion (field : String) (defect : CriterionDefect)
  | unknownField (entity field : String)
  | duplicateParameter (name : String)
  | alreadyEmitted
  | invalidRequest (fault : RequestFault)
  deriving DecidableEq, Repr

namespace FilterError

def code : FilterError → String
  | missingSchema .. => "MISSING_SCHEMA"
  | missingSearchTerms => "MISSING_SEARCH_TERMS"
  | noSearchableFields => "NO_SEARCHABLE_FIELDS"
  | missingDialect => "MISSING_DIALECT"
  | unsupportedFieldKind .. => "UNSUPPORTED_FIELD_KIND"
  | unsupportedCriterion .. => "UNSUPPORTED_CRITERION"
  | unknownField .. => "UNKNOWN_FIELD"
  | duplicateParameter .. => "DUPLICATE_PARAMETER"
  | alreadyEmitted => "ALREADY_EMITTED"
  | invalidRequest .. => "INVALID_REQUEST"

/-- The words for an error, where it has any. -/
def message? : FilterError → Option String
  | missingSchema entity => some s!"No schema is bound for entity '{entity}'"
  | missingSearchTerms => some "No search terms were specified"
  | noSearchableFields => some "No free-text fields were specified"
  | missingDialect => some "No SQL dialect is available for this statement"
  | unsupportedFieldKind field kind usage =>
    some s!"Field '{field}' of kind {kind} cannot be used with {usage.label}"
  | unsupportedCriterion field defect =>
    some s!"Unsupported criterion on field '{field}': {defect.message}"
  | unknownField entity field => some s!"Entity '{entity}' has no field named '{field}'"
  | duplicateParameter name => some s!"Parameter name '{name}' is already in use"
  | alreadyEmitted => some "Filter constraints were already appended"
  | invalidRequest fault => fault.message?.map fun m => s!"Invalid filter request: {m}"

end FilterError
end EntityFilter
