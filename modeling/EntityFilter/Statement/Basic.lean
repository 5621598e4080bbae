import EntityFilter.Dialect.Basic
import EntityFilter.Entity
import EntityFilter.Statement.Registry

/-!
Statements collect fragments of a condition and the parameters that these use.  All fragments hold
at once: a single one is the condition, several are joined between parentheses.
-/

namespace EntityFilter

/-- A parameter and the value it is bound to. -/
structure Binding where
  name : String
  kind : Kind
  value : Value
  deriving DecidableEq

/-- A statement under construction.  One without a dialect takes parameters and fragments, but no
filters. -/
structure Statement where
  dialect : Option Dialect := none
  registry : Registry := {}
  fragments : List String := []
  parameters : List Binding := []
  deriving DecidableEq, Inhabited

/-- The text of a query with its parameters in the order of their numbers. -/
structure Query where
  sql : String
  parameters : List Binding
  deriving DecidableEq

namespace Statement

def new (d : Dialect) : Statement := { dialect := some d }

def detached : Statement := {}

/-- The dialect of a statement that has one. -/
def requireDialect (s : Statement) : Except FilterError Dialect :=
  match s.dialect with
  | some d => .ok d
  | none => .error .missingDialect

def setDialect (s : Statement) (d : Dialect) : Statement := { s with dialect := some d }

/-- The statement with another stem for the names to come. -/
def setStem (s : Statement) (stem : String) : Statement :=
  { s with registry := { s.registry with stem } }

def isEmpty (s : Statement) : Bool := s.fragments.isEmpty && s.parameters.isEmpty

def pushBinding (s : Statement) (name : String) (kind : Kind) (value : Value) :
    Parameter × Statement :=
  (⟨name, s.parameters.length + 1, kind⟩,
    { s with parameters := s.parameters ++ [⟨name, kind, value⟩] })

def bind (s : Statement) (kind : Kind) (value : Value) : Parameter × Statement :=
  let (name, registry) := s.registry.allocate
  { s with registry }.pushBinding name kind value

def bindNamed (s : Statement) (name : String) (kind : Kind) (value : Value) :
    Except FilterError (Parameter × Statement) :=
  (s.registry.reserve name).map fun registry => { s with registry }.pushBinding name kind value

/-- Adds a fragment at the end, unless it is empty. -/
def pushFragment (s : Statement) (fragment : String) : Statement :=
  if fragment.isEmpty then s else { s with fragments := s.fragments ++ [fragment] }

def parenthesized (text : String) : String := "(" ++ text ++ ")"

def whereClause (s : Statement) : Except FilterError String :=
  match s.fragments with
  | [] => .ok ""
  | [only] => .ok only
  | many => do
    let d ← s.requireDialect
    return s!" {d.andKeyword} ".intercalate (many.map parenthesized)

/-- The selection of an entity's rows that fulfil the condition. -/
def select (s : Statement) (e : Entity) : Except FilterError String := do
  let d ← s.requireDialect
  let table := d.identifier e.nativeName
  let condition ← s.whereClause
  if condition.isEmpty then return "SELECT * FROM " ++ table
  else return "SELECT * FROM " ++ table ++ " WHERE " ++ condition

def finish (s : Statement) : Except FilterError Query := do
  return ⟨← s.whereClause, s.parameters⟩

def finishSelect (s : Statement) (e : Entity) : Except FilterError Query := do
  return ⟨← s.select e, s.parameters⟩

end Statement
end EntityFilter
