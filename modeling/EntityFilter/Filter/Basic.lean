import EntityFilter.Filter.FreeText

/-!
Filters of both kinds.
-/

namespace EntityFilter

inductive Filter where
  | field (f : FieldFilter)
  | freeText (f : FreeTextFilter)
  deriving DecidableEq

namespace Filter

def entity : Filter → Entity
  | field f => f.entity
  | freeText f => f.base.entity

/-- The field filter that states a filter's criteria. -/
def base : Filter → FieldFilter
  | field f => f
  | freeText f => f.base

def setBase (b : FieldFilter) : Filter → Filter
  | field _ => field b
  | freeText f => freeText { f with base := b }

def isEmitted : Filter → Bool
  | field f => f.emitted
  | freeText f => f.emitted

def append (f : Filter) (s : Statement) : Appended Filter :=
  match f with
  | field f =>
    let a := f.append s
    ⟨field a.filter, a.statement, a.result⟩
  | freeText f =>
    let a := f.append s
    ⟨freeText a.filter, a.statement, a.result⟩

/-- Appends filters one after the other, up to the first that fails. -/
def appendAll (s : Statement) : List Filter → Except FilterError Statement
  | [] => .ok s
  | f :: rest =>
    let a := f.append s
    match a.result with
    | .ok () => appendAll a.statement rest
    | .error e => .error e

end Filter
end EntityFilter
