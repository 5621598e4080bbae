import EntityFilter.Dialect.Like
import EntityFilter.Statement.Clause

/-!
Criteria: what a filter demands of one field, for which kinds of field each is meant, and the
predicate that it becomes.
-/

namespace EntityFilter

inductive Comparison where
  | greater
  | greaterOrEqual
  | less
  | lessOrEqual
  deriving DecidableEq, Repr

def Comparison.symbol : Comparison → String
  | greater => ">"
  | greaterOrEqual => ">="
  | less => "<"
  | lessOrEqual => "<="

/-- A demand on the value of a field. -/
inductive Criterion where
  | equals (v : Value)
  | notEquals (v : Value)
  | compares (op : Comparison) (v : Value)
  | between (low high : Value)
  | among (values : List Value)
  | like (p : Like)
  | isNull
  | isNotNull
  deriving DecidableEq

namespace Criterion

/-- The use that a criterion makes of its field. -/
def usage : Criterion → Usage
  | equals _ | notEquals _ => .equality
  | compares _ _ => .ordering
  | between _ _ => .range
  | among _ => .membership
  | like _ => .patternMatch
  | isNull | isNotNull => .nullCheck

/-- What makes a criterion meaningless for every kind of field. -/
def defect? : Criterion → Option CriterionDefect
  | compares _ v => if v.isNull then some .nullOrdering else none
  | between low high => if low.isNull || high.isNull then some .nullBound else none
  | among values =>
    if values.isEmpty then some .emptyList
    else if values.any Value.isNull then some .nullInList
    else none
  | _ => none

/-- Whether a criterion has a predicate for fields of a kind. -/
def supports (kind : Kind) : Criterion → Bool
  | equals v | notEquals v => v.isNull || kind.isComparable
  | compares _ _ => kind.isOrdered
  | between _ _ => kind.isOrdered
  | among _ => kind.isComparable
  | like _ => kind.isTextual
  | isNull | isNotNull => true

/-- The values that are bound under the kind of the field. -/
def values : Criterion → List Value
  | equals v | notEquals v => [v]
  | compares _ v => [v]
  | between low high => [low, high]
  | among values => values
  | like _ => []
  | isNull | isNotNull => []

/-- Checks that a field has a predicate for a criterion, and that every value fits the field. -/
def check (c : Criterion) (f : Field) : Except FilterError Unit :=
  match c.defect? with
  | some defect => .error (.unsupportedCriterion f.name defect)
  | none =>
    if c.supports f.kind then
      match c.values.find? fun v => !v.fits f.kind with
      | some v => .error (.unsupportedCriterion f.name (.misfit v.typeName f.kind))
      | none => .ok ()
    else .error (.unsupportedFieldKind f.name f.kind c.usage)

/-- The predicate that compares a column with a value. -/
def comparison (column symbol : String) (kind : Kind) (v : Value) : Clause :=
  .text (column ++ " " ++ symbol ++ " ") ++ .value kind v

/-- The predicate of equality or its opposite.  Null is tested for, and a boolean is written into
the predicate. -/
def equality (d : Dialect) (column symbol nullTest : String) (kind : Kind) (v : Value) : Clause :=
  match v with
  | .null => .text (column ++ " " ++ nullTest)
  | .boolean b =>
    if kind = .boolean then .text (column ++ " " ++ symbol ++ " " ++ d.boolLiteral b)
    else comparison column symbol kind v
  | _ => comparison column symbol kind v

/-- The predicate of a criterion on a field. -/
def clause (d : Dialect) (f : Field) (c : Criterion) : Clause :=
  let column := d.identifier f.nativeName
  match c with
  | equals v => equality d column "=" "IS NULL" f.kind v
  | notEquals v => equality d column "<>" "IS NOT NULL" f.kind v
  | compares op v => comparison column op.symbol f.kind v
  | between low high =>
    .text (column ++ " BETWEEN ") ++ .value f.kind low ++ .text (" " ++ d.andKeyword ++ " ") ++
      .value f.kind high
  | among values =>
    .text (column ++ " IN (") ++ .join ", " (values.map (.value f.kind)) ++ .text ")"
  | like p => .text (column ++ " LIKE ") ++ .value f.kind (.text p.pattern) ++ .text d.likeEscape
  | isNull => .text (column ++ " IS NULL")
  | isNotNull => .text (column ++ " IS NOT NULL")

end Criterion
end EntityFilter
