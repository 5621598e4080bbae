import EntityFilter.Filter.Criterion
import EntityFilter.Filter.FieldSet

/-!
Field filters: at most one criterion for each column of an entity, of which all must hold or any.
-/

namespace EntityFilter

/-- Whether all demands of a filter must hold, or any of them. -/
inductive MatchMode where
  | all
  | any
  deriving DecidableEq, Repr, Inhabited

namespace MatchMode

def name : MatchMode → String
  | all => "all"
  | any => "any"

def named : List (String × MatchMode) := [(all.name, all), (any.name, any)]

/-- The keyword between the predicates of a filter. -/
def keyword (d : Dialect) : MatchMode → String
  | all => d.andKeyword
  | any => d.orKeyword

end MatchMode

/-- What comes of appending a filter to a statement: both afterwards, and whether it worked. -/
structure Appended (F : Type) where
  filter : F
  statement : Statement
  result : Except FilterError Unit

/-- Steps of an append, on the filter and the statement.  A step that fails is the last; what the
steps before it have changed stays changed. -/
abbrev Appending (F : Type) := EStateM FilterError (F × Statement)

namespace Appending

variable {F α : Type}

/-- The step that fails when something is wrong. -/
def check (x : Except FilterError α) : Appending F α :=
  match x with
  | .ok a => pure a
  | .error e => throw e

/-- What comes of the steps on a filter and a statement. -/
def on (steps : Appending F Unit) (f : F) (s : Statement) : Appended F :=
  match steps.run (f, s) with
  | .ok () (f, s) => ⟨f, s, .ok ()⟩
  | .error e (f, s) => ⟨f, s, .error e⟩

end Appending

/-- A filter over the columns of an entity.  Criteria are kept by column. -/
structure FieldFilter where
  entity : Entity
  fields : FieldSet := {}
  criteria : List (String × Criterion) := []
  mode : MatchMode := .all
  emitted : Bool := false
  deriving DecidableEq, Inhabited

namespace FieldFilter

def new (e : Entity) : FieldFilter := { entity := e }

def setMode (f : FieldFilter) (mode : MatchMode) : FieldFilter := { f with mode }

def resolve (f : FieldFilter) (name : String) : Except FilterError Field :=
  match f.entity.field? name with
  | some field => .ok field
  | none => .error (.unknownField f.entity.name name)

/-- Adds a field without a demand on it. -/
def addField (f : FieldFilter) (name : String) : Except FilterError FieldFilter := do
  let field ← f.resolve name
  return { f with fields := f.fields.add field }

/-- Sets the criterion of a column in a list of criteria by column. -/
def putCriterion (nativeName : String) (c : Criterion) :
    List (String × Criterion) → List (String × Criterion)
  | [] => [(nativeName, c)]
  | (column, old) :: rest =>
    if column = nativeName then (column, c) :: rest
    else (column, old) :: putCriterion nativeName c rest

/-- Demands something of a field, instead of what was demanded of its column before. -/
def setCriterion (f : FieldFilter) (name : String) (c : Criterion) :
    Except FilterError FieldFilter := do
  let field ← f.resolve name
  return { f with
    fields := f.fields.add field
    criteria := putCriterion field.nativeName c f.criteria }

/-- The criterion on the column of a field. -/
def criterionOn (f : FieldFilter) (field : Field) : Option Criterion :=
  f.criteria.lookup field.nativeName

/-- The criterion on the column of the field of a name. -/
def criterion? (f : FieldFilter) (name : String) : Option Criterion :=
  (f.entity.field? name).bind f.criterionOn

def hasCriteria (f : FieldFilter) : Bool := !f.criteria.isEmpty

/-- Checks the criteria in the order of the fields. -/
def validate (f : FieldFilter) : Except FilterError Unit :=
  f.fields.fields.forM fun field =>
    match f.criterionOn field with
    | some c => c.check field
    | none => .ok ()

/-- The predicates of the criteria in the order of the fields. -/
def predicates (f : FieldFilter) (d : Dialect) : List Clause :=
  f.fields.fields.filterMap fun field => (f.criterionOn field).map (Criterion.clause d field)

/-- The condition of a filter; it is empty when nothing is demanded. -/
def clause (f : FieldFilter) (d : Dialect) : Clause :=
  .join (" " ++ f.mode.keyword d ++ " ") (f.predicates d)

def emit : Appending FieldFilter Unit := do
  let (f, s) ← get
  if f.emitted then throw .alreadyEmitted
  let d ← Appending.check s.requireDialect
  Appending.check f.validate
  let e ← Appending.check s.begin
  set (f, e.commitClause (f.clause d))
  modify fun (f, s) => ({ f with emitted := true }, s)

/-- Appends a filter to a statement.  A filter is appended once. -/
def append (f : FieldFilter) (s : Statement) : Appended FieldFilter := emit.on f s

end FieldFilter
end EntityFilter
