import EntityFilter.Json.Reader
import EntityFilter.Kind

/-!
Entities and the catalog that declares them, with the JSON form of both.  An entity names its table
and its fields; each field has a name for requests and a native name, which is its column.
-/

namespace EntityFilter

structure Field where
  name : String
  nativeName : String
  kind : Kind
  deriving DecidableEq, Repr, Inhabited

/-- An entity: its name, its table and its fields in the order of their declaration. -/
structure Entity where
  name : String
  nativeName : String
  fields : List Field
  deriving DecidableEq, Repr, Inhabited

namespace Entity

def field? (e : Entity) (name : String) : Option Field := e.fields.find? (·.name == name)

def textFields (e : Entity) : List Field := e.fields.filter (·.kind.isTextual)

end Entity

open Json

structure Field.Draft where
  name : Option String := none
  nativeName : Option String := none
  kind : Option Kind := none

namespace Field

def shape : RecordShape Draft where
  title := "struct SchemaField"
  fields := [
    ("name", fun d n => do return { d with name := ← once "name" d.name Node.readString n }),
    ("native_name", fun d n => do
      return { d with nativeName := ← once "native_name" d.nativeName Node.readString n }),
    ("kind", fun d n => do
      return { d with kind := ← once "kind" d.kind (Node.readVariant .streamed Kind.named) n })]
  least := 3
  closed := false

def read : Reader Field := fun node => do
  let d ← shape.read .streamed {} node
  return ⟨← required "name" d.name, ← required "native_name" d.nativeName, ← required "kind" d.kind⟩

end Field

structure Entity.Draft where
  name : Option String := none
  nativeName : Option String := none
  fields : Option (List Field) := none

namespace Entity

def shape : RecordShape Draft where
  title := "struct EntitySchema"
  fields := [
    ("name", fun d n => do return { d with name := ← once "name" d.name Node.readString n }),
    ("native_name", fun d n => do
      return { d with nativeName := ← once "native_name" d.nativeName Node.readString n }),
    ("fields", fun d n => do
      return { d with fields := ← once "fields" d.fields (Node.readList Field.read) n })]
  least := 3
  closed := false

def read : Reader Entity := fun node => do
  let d ← shape.read .streamed {} node
  return ⟨← required "name" d.name, ← required "native_name" d.nativeName,
    ← required "fields" d.fields⟩

end Entity
end EntityFilter
