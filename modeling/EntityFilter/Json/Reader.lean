import EntityFilter.Json.Node
import EntityFilter.Json.Problem

/-!
Readers: what a node spells, or the first thing wrong with it from left to right.  A record is
spelled as an object, in any order of its fields, or as an array of the fields in their order.
-/

namespace EntityFilter.Json

/-- Reads a thing from the node that spells it. -/
abbrev Reader (α : Type) := Node → Except ReadError α

/-- Whether a value is read while its text is, or is kept first and read when all of it is there.
While a text is read, a value of a form that cannot be meant counts as a fault of the text. -/
inductive ReadMode where
  | streamed
  | kept
  deriving DecidableEq, Repr

namespace Node

/-- What a node is, if it is anything. -/
def finding? : Node → Option Finding
  | null => some .null
  | bool b => some (.boolean b)
  | number n => some (.number n)
  | string s => some (.string s)
  | array _ => some .sequence
  | object _ => some .map
  | unreadable => none
  | broken => none

/-- The error of a node that is not what is wanted. -/
def mismatch (wanted : String) (node : Node) : ReadError :=
  match node.finding? with
  | some found => .problem (.invalidType found wanted)
  | none => .malformed

def readString : Reader String
  | string s => .ok s
  | node => .error (node.mismatch "a string")

def readBool : Reader Bool
  | bool b => .ok b
  | node => .error (node.mismatch "a boolean")

/-- Nothing for null, and what `read` gives for any other node. -/
def readOptional {α : Type} (read : Reader α) : Reader (Option α)
  | null => .ok none
  | node => some <$> read node

def readList {α : Type} (read : Reader α) : Reader (List α)
  | array items => items.mapM read
  | node => .error (node.mismatch "a sequence")

/-- The value of a node of which at most `room` levels may nest. -/
def readJson (room : Nat) : Reader Json := fun node =>
  match node.value? room with
  | some value => .ok value
  | none => .error .malformed

def findVariant {α : Type} (options : List (String × α)) (name : String) : Except ReadError α :=
  match options.lookup name with
  | some a => .ok a
  | none => .error (.problem (.unknownVariant name (options.map (·.1))))

/-- One of several options, spelled by its name alone or as the only key of an object with the
value null. -/
def readVariant {α : Type} (mode : ReadMode) (options : List (String × α)) : Reader α
  | string name => findVariant options name
  | object members =>
    match mode, members with
    | .streamed, (string name, value) :: rest => do
      let a ← findVariant options name
      match value, rest with
      | null, [] => return a
      | null, _ => throw .malformed
      | _, _ => throw (value.mismatch "unit")
    | .streamed, _ => .error .malformed
    | .kept, [(string name, value)] => do
      let a ← findVariant options name
      match value with
      | null => return a
      | object [] => return a
      | _ => throw (value.mismatch "unit")
    | .kept, _ => .error (.problem (.invalidValue .map "map with a single key"))
  | node =>
    match mode with
    | .streamed => .error .malformed
    | .kept => .error (node.mismatch "string or map")

end Node

/-- The value of a field of a record that is being read; a field is set at most once. -/
def once {α : Type} (name : String) (slot : Option α) (read : Reader α) (node : Node) :
    Except ReadError (Option α) :=
  if slot.isSome then .error (.problem (.duplicateField name)) else some <$> read node

/-- The value of a field that a record cannot do without. -/
def required {α : Type} (name : String) : Option α → Except ReadError α
  | some a => .ok a
  | none => .error (.problem (.missingField name))

/-- How a record is spelled, for a record that is read into drafts of type `D`. -/
structure RecordShape (D : Type) where
  /-- What the record is called in messages. -/
  title : String
  /-- The fields in their order, each with the way its value is read into a draft. -/
  fields : List (String × (D → Reader D))
  /-- The least length of an array that spells the record. -/
  least : Nat
  /-- Whether an object may have no keys but the fields. -/
  closed : Bool

namespace RecordShape

variable {D : Type}

def elements (n : Nat) : String := if n = 1 then "1 element" else s!"{n} elements"

def readMember (shape : RecordShape D) (draft : D) : Node × Node → Except ReadError D
  | (.string key, value) =>
    match shape.fields.lookup key with
    | some set => set draft value
    | none =>
      if shape.closed then .error (.problem (.unknownField key (shape.fields.map (·.1))))
      else if value.isBroken then .error .malformed
      else .ok draft
  | _ => .error .malformed

def readMembers (shape : RecordShape D) (draft : D) (members : List (Node × Node)) :
    Except ReadError D :=
  members.foldlM shape.readMember draft

def readItems (shape : RecordShape D) (mode : ReadMode) (draft : D) (items : List Node) :
    Except ReadError D := do
  let width := shape.fields.length
  let draft ← (shape.fields.zip items).foldlM (fun draft (field, item) => field.2 draft item) draft
  if items.length < shape.least then
    throw (.problem (.invalidLength items.length s!"{shape.title} with {elements width}"))
  else if width < items.length then
    match mode with
    | .streamed => throw .malformed
    | .kept =>
      throw (.problem (.invalidLength items.length s!"{elements width} in sequence"))
  else return draft

def read (shape : RecordShape D) (mode : ReadMode) (draft : D) : Reader D
  | .object members => shape.readMembers draft members
  | .array items => shape.readItems mode draft items
  | node => .error (node.mismatch shape.title)

end RecordShape

def readText {α : Type} (read : Reader α) (text : String) : Except ReadError α := do
  let document := Document.ofText text
  let a ← read document.root
  if document.trailing then throw .malformed else return a

end EntityFilter.Json
