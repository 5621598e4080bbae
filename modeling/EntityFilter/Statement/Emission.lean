import EntityFilter.Statement.Basic

/-!
Emissions add one fragment and its parameters to a statement, all or nothing.  Names are taken from
the registry at once; when an emission is abandoned, they go back.
-/

namespace EntityFilter

/-- An emission in progress.  The registry of `statement` has given out the names in `names`, and
`counter` is where its counter was before. -/
structure Emission where
  statement : Statement
  dialect : Dialect
  counter : Nat
  names : List String := []
  pending : List Binding := []
  deriving DecidableEq

def Statement.begin (s : Statement) : Except FilterError Emission := do
  let dialect ← s.requireDialect
  return { statement := s, dialect, counter := s.registry.counter }

namespace Emission

/-- Binds a value; the answer is the marker that stands for it. -/
def bind (e : Emission) (kind : Kind) (value : Value) : String × Emission :=
  let (name, registry) := e.statement.registry.allocate
  let parameter : Parameter := ⟨name, e.statement.parameters.length + e.pending.length + 1, kind⟩
  (e.dialect.marker parameter,
    { e with
      statement := { e.statement with registry }
      names := e.names ++ [name]
      pending := e.pending ++ [⟨name, kind, value⟩] })

/-- Binds values one after the other; the answer has their markers in order. -/
def bindAll (e : Emission) : List (Kind × Value) → List String × Emission
  | [] => ([], e)
  | (kind, value) :: rest =>
    let (marker, e) := e.bind kind value
    let (markers, e) := e.bindAll rest
    (marker :: markers, e)

def abandon (e : Emission) : Statement :=
  { e.statement with registry := e.statement.registry.release e.counter e.names }

/-- Ends an emission with its fragment.  One without text leaves no trace. -/
def commit (e : Emission) (fragment : String) : Statement :=
  if fragment.isEmpty then e.abandon
  else
    { e.statement with
      fragments := e.statement.fragments ++ [fragment]
      parameters := e.statement.parameters ++ e.pending }

end Emission
end EntityFilter
