import EntityFilter.Catalog
import EntityFilter.Request.Basic

/-!
From requests to queries: the filters of a request over an entity of the catalog, and the query
that they make in a dialect.
-/

namespace EntityFilter

/-- A request whose entity and fields are found, as filters. -/
structure ParsedRequest where
  entity : Entity
  filters : List Filter

namespace Condition

def scalar (kind : Kind) (j : Json) : Except ConditionFault Value :=
  (Value.ofJson kind j).mapError .conversion

def items (j : Json) : Except ConditionFault (List Json) :=
  match j.asArray? with
  | some items => .ok items
  | none => .error (.notAnArray j.compact)

def patternText (j : Json) : Except ConditionFault String :=
  match j.asString? with
  | some s => .ok s
  | none => .error (.notAPattern j.compact)

/-- The criterion of an operator and its operand, for a field of a kind. -/
def toCriterion (kind : Kind) (j : Json) : Operator → Except ConditionFault Criterion
  | .equals => return .equals (← scalar kind j)
  | .notEquals => return .notEquals (← scalar kind j)
  | .compares op => return .compares op (← scalar kind j)
  | .between => do
    match ← items j with
    | [low, high] => return .between (← scalar kind low) (← scalar kind high)
    | _ => throw .boundCount
  | .among => return .among (← (← items j).mapM (scalar kind))
  | .contains => return .like (.contains (← patternText j))
  | .startsWith => return .like (.startsWith (← patternText j))
  | .endsWith => return .like (.endsWith (← patternText j))
  | .isNull => return .isNull
  | .isNotNull => return .isNotNull

def apply (f : FieldFilter) (c : Condition) : Except FilterError FieldFilter := do
  let field ← f.resolve c.field
  let criterion ← (toCriterion field.kind c.value c.operator).mapError fun fault =>
    .invalidRequest (.condition c.field fault)
  f.setCriterion c.field criterion

end Condition

namespace FilterSpec

/-- The filter over an entity that a request states. -/
def build (e : Entity) : FilterSpec → Except FilterError Filter
  | field mode fields conditions => do
    let f ← fields.foldlM FieldFilter.addField ((FieldFilter.new e).setMode mode)
    return .field (← conditions.foldlM Condition.apply f)
  | freeText terms fields allTextFields mode conditions => do
    let f := FreeTextFilter.new e
    let f := match terms with
      | some terms => f.setTerms terms
      | none => f
    let f ← fields.foldlM FreeTextFilter.addField f
    let f := if allTextFields then f.addAllTextFields else f
    let base ← conditions.foldlM Condition.apply (f.base.setMode mode)
    return .freeText { f with base }

end FilterSpec

namespace Catalog

/-- The entity of a name that a catalog should have. -/
def resolve (c : Catalog) (name : String) : Except FilterError Entity :=
  match c.entity? name with
  | some e => .ok e
  | none => .error (.missingSchema name)

/-- The filters of a request text over a catalog. -/
def parseRequest (c : Catalog) (text : String) : Except FilterError ParsedRequest := do
  let request ← (Request.ofText text).mapError .invalidRequest
  let entity ← c.resolve request.entity
  return ⟨entity, ← request.filters.mapM (FilterSpec.build entity)⟩

/-- The query of a request text over a catalog, with parameters named after `stem`. -/
def compileRequest (c : Catalog) (text : String) (d : Dialect) (stem : String) :
    Except FilterError Query := do
  let parsed ← c.parseRequest text
  let statement ← Filter.appendAll ((Statement.new d).setStem stem) parsed.filters
  statement.finishSelect parsed.entity

end Catalog
end EntityFilter
