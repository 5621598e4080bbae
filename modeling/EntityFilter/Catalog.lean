import EntityFilter.Entity

/-!
The catalog of entities that requests refer to.  Entities of a catalog have different names.
-/

namespace EntityFilter

/-- The declared entities, in the order of their declaration. -/
structure Catalog where
  entities : List Entity
  deriving DecidableEq, Repr, Inhabited

inductive CatalogError where
  | unreadable (e : Json.ReadError)
  | repeatedEntity (name : String)
  deriving DecidableEq, Repr

namespace Catalog

open Json

def entity? (c : Catalog) (name : String) : Option Entity := c.entities.find? (·.name == name)

/-- The first name that also occurs before, where `known` are the names so far. -/
def firstRepeated? (known : List String) : List String → Option String
  | [] => none
  | name :: rest => if name ∈ known then some name else firstRepeated? (name :: known) rest

def shape : RecordShape (Option (List Entity)) where
  title := "struct Catalog"
  fields := [("entities", fun d n => once "entities" d (Node.readList Entity.read) n)]
  least := 1
  closed := false

def read : Reader Catalog := fun node => do
  let d ← shape.read .streamed none node
  return ⟨← required "entities" d⟩

def ofText (text : String) : Except CatalogError Catalog :=
  match readText read text with
  | .error e => .error (.unreadable e)
  | .ok c =>
    match firstRepeated? [] (c.entities.map (·.name)) with
    | some name => .error (.repeatedEntity name)
    | none => .ok c

end Catalog
end EntityFilter
