import EntityFilter.Filter.Basic

/-!
Filter requests and their JSON form.  A request names an entity and lists filters; a filter says of
which kind it is under the key `type`, which may stand anywhere, and other keys that it does not
know are ignored.  The request itself and its conditions admit no unknown keys.
-/

namespace EntityFilter

inductive Operator where
  | equals
  | notEquals
  | compares (op : Comparison)
  | between
  | among
  | contains
  | startsWith
  | endsWith
  | isNull
  | isNotNull
  deriving DecidableEq, Repr

def Operator.named : List (String × Operator) := [
  ("=", equals), ("<>", notEquals), (">", compares .greater), (">=", compares .greaterOrEqual),
  ("<", compares .less), ("<=", compares .lessOrEqual), ("between", between), ("in", among),
  ("contains", contains), ("starts_with", startsWith), ("ends_with", endsWith),
  ("is null", isNull), ("is not null", isNotNull)]

/-- A condition on a field: an operator and what it is applied to. -/
structure Condition where
  field : String
  operator : Operator
  value : Json := .null

inductive FilterSpec where
  | field (mode : MatchMode) (fields : List String) (conditions : List Condition)
  | freeText (terms : Option String) (fields : List String) (allTextFields : Bool)
      (mode : MatchMode) (conditions : List Condition)

structure Request where
  entity : String
  filters : List FilterSpec := []

open Json

structure Condition.Draft where
  field : Option String := none
  operator : Option Operator := none
  value : Option Json := none

namespace Condition

def shape : RecordShape Draft where
  title := "struct CriterionSpec"
  fields := [
    ("field", fun d n => do return { d with field := ← once "field" d.field Node.readString n }),
    ("op", fun d n => do
      return { d with
        operator := ← once "op" d.operator (Node.readVariant .kept Operator.named) n }),
    ("value", fun d n => do
      return { d with value := ← once "value" d.value (Node.readJson maxDepth) n })]
  least := 2
  closed := true

def read : Reader Condition := fun node => do
  let d ← shape.read .kept {} node
  return ⟨← required "field" d.field, ← required "op" d.operator, d.value.getD .null⟩

end Condition

/-- A filter of either kind while its JSON is read. -/
structure FilterSpec.Draft where
  terms : Option (Option String) := none
  fields : Option (List String) := none
  allTextFields : Option Bool := none
  mode : Option MatchMode := none
  conditions : Option (List Condition) := none

namespace FilterSpec

inductive Tag where
  | field
  | freeText
  deriving DecidableEq, Repr

def Tag.named : List (String × Tag) := [("field", .field), ("free_text", .freeText)]

def Tag.read : Reader Tag
  | .string name => Node.findVariant Tag.named name
  | node => .error (node.mismatch "variant identifier")

def readMode (d : Draft) : Reader Draft := fun n => do
  return { d with mode := ← once "match" d.mode (Node.readVariant .kept MatchMode.named) n }

def readFields (d : Draft) : Reader Draft := fun n => do
  return { d with fields := ← once "fields" d.fields (Node.readList Node.readString) n }

def readConditions (d : Draft) : Reader Draft := fun n => do
  return { d with conditions := ← once "criteria" d.conditions (Node.readList Condition.read) n }

def readTerms (d : Draft) : Reader Draft := fun n => do
  return { d with terms := ← once "terms" d.terms (Node.readOptional Node.readString) n }

/-- Reads whether a search is in every field of text. -/
def readAllTextFields (d : Draft) : Reader Draft := fun n => do
  return { d with allTextFields := ← once "all_text_fields" d.allTextFields Node.readBool n }

/-- How a filter of a kind is spelled, its kind apart. -/
def shape : Tag → RecordShape Draft
  | .field => {
      title := "struct variant FilterSpec::Field"
      fields := [("match", readMode), ("fields", readFields), ("criteria", readConditions)]
      least := 0
      closed := false }
  | .freeText => {
      title := "struct variant FilterSpec::FreeText"
      fields := [("terms", readTerms), ("fields", readFields),
        ("all_text_fields", readAllTextFields), ("match", readMode), ("criteria", readConditions)]
      least := 1
      closed := false }

/-- The filter of a draft.  Whatever a draft lacks has a default. -/
def ofDraft (d : Draft) : Tag → FilterSpec
  | .field => .field (d.mode.getD .all) (d.fields.getD []) (d.conditions.getD [])
  | .freeText =>
    .freeText (d.terms.getD none) (d.fields.getD []) (d.allTextFields.getD false)
      (d.mode.getD .all) (d.conditions.getD [])

/-- The kind of a filter and its other members, from the members of an object; `tag` is the kind as
far as it is known. -/
def splitTag (tag : Option Tag) : List (Node × Node) →
    Except ReadError (Tag × List (Node × Node))
  | [] => do return (← required "type" tag, [])
  | (key, value) :: rest =>
    if key.asString? = some "type" then do
      let tag ← once "type" tag Tag.read value
      splitTag tag rest
    else do
      let (tag, members) ← splitTag tag rest
      return (tag, (key, value) :: members)

def read : Reader FilterSpec
  | .object members => do
    let (tag, members) ← splitTag none members
    return ofDraft (← (shape tag).readMembers {} members) tag
  | .array [] => .error (.problem (.missingField "type"))
  | .array (first :: rest) => do
    let tag ← Tag.read first
    return ofDraft (← (shape tag).readItems .kept {} rest) tag
  | node => .error (node.mismatch "internally tagged enum FilterSpec")

end FilterSpec

structure Request.Draft where
  entity : Option String := none
  filters : Option (List FilterSpec) := none

namespace Request

def shape : RecordShape Draft where
  title := "struct RequestSpec"
  fields := [
    ("entity", fun d n => do
      return { d with entity := ← once "entity" d.entity Node.readString n }),
    ("filters", fun d n => do
      return { d with filters := ← once "filters" d.filters (Node.readList FilterSpec.read) n })]
  least := 1
  closed := true

def read : Reader Request := fun node => do
  let d ← shape.read .streamed {} node
  return ⟨← required "entity" d.entity, d.filters.getD []⟩

/-- The request that a text spells.  The text must be JSON as a whole before anything else about it
counts. -/
def ofText (text : String) : Except RequestFault Request :=
  if RequestFault.maxSize < text.utf8ByteSize then .error .tooLarge
  else
    let document := Document.ofText text
    if document.value?.isNone then .error (.unreadable .malformed)
    else
      match read document.root with
      | .error e => .error (.unreadable e)
      | .ok request =>
        if RequestFault.maxFilters < request.filters.length then .error .tooManyFilters
        else .ok request

end Request
end EntityFilter
