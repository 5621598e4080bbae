import EntityFilter.Dialect.Basic
import EntityFilter.Json.Reader

/-!
The configuration file and its JSON form.  Every key is optional, null counts as absent, and keys
that mean nothing are kept with their values.
-/

namespace EntityFilter

open Json

structure FileConfig where
  dialect : Option Dialect := none
  stem : Option String := none
  schema : Option String := none
  extra : List (String × Json) := []

/-- A configuration file while its JSON is read. -/
structure FileConfig.Draft where
  dialect : Option (Option Dialect) := none
  stem : Option (Option String) := none
  schema : Option (Option String) := none
  extra : List (String × Json) := []

namespace FileConfig

def Draft.set (d : Draft) (key : String) (value : Node) : Except ReadError Draft :=
  if key = "dialect" then do
    let read := Node.readOptional (Node.readVariant .streamed Dialect.named)
    return { d with dialect := ← once key d.dialect read value }
  else if key = "parameter_prefix" then do
    return { d with stem := ← once key d.stem (Node.readOptional Node.readString) value }
  else if key = "schema" then do
    return { d with schema := ← once key d.schema (Node.readOptional Node.readString) value }
  else do
    let value ← Node.readJson (maxDepth - 1) value
    return { d with extra := setMember key value d.extra }

def readMember (d : Draft) : Node × Node → Except ReadError Draft
  | (.string key, value) => d.set key value
  | _ => .error .malformed

def read : Reader FileConfig
  | .object members => do
    let d ← members.foldlM readMember {}
    return ⟨d.dialect.getD none, d.stem.getD none, d.schema.getD none, d.extra⟩
  | node => .error (node.mismatch "struct FileConfig")

def ofText (text : String) : Except ReadError FileConfig := readText read text

end FileConfig
end EntityFilter
