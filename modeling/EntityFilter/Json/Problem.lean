import EntityFilter.Json.Printer
import EntityFilter.Text.Quoted

/-!
What can be wrong with a JSON text that should spell a given kind of thing, and the words for it.
-/

namespace EntityFilter.Json

inductive Finding where
  | null
  | boolean (b : Bool)
  | number (n : Number)
  | string (s : String)
  | sequence
  | map
  deriving DecidableEq, Repr

inductive Problem where
  | missingField (name : String)
  | duplicateField (name : String)
  | unknownField (name : String) (expected : List String)
  | unknownVariant (name : String) (expected : List String)
  | invalidType (found : Finding) (wanted : String)
  | invalidValue (found : Finding) (wanted : String)
  | invalidLength (length : Nat) (wanted : String)
  deriving DecidableEq, Repr

/-- Why a text could not be read: it is no JSON, or it says the wrong thing. -/
inductive ReadError where
  | malformed
  | problem (p : Problem)
  deriving DecidableEq, Repr

/-- The words for what was found.  Scalars are shown. -/
def Finding.describe : Finding → String
  | null => "null"
  | boolean b => s!"boolean `{b}`"
  | number (.integer i) => s!"integer `{i}`"
  | number (.float x) => s!"floating point `{writeFloat x}`"
  | string s => s!"string {Text.quoted s}"
  | sequence => "sequence"
  | map => "map"

def ticked (name : String) : String := s!"`{name}`"

def oneOf : List String → String
  | [a] => ticked a
  | [a, b] => s!"{ticked a} or {ticked b}"
  | names => "one of " ++ ", ".intercalate (names.map ticked)

def Problem.message : Problem → String
  | missingField name => s!"missing field `{name}`"
  | duplicateField name => s!"duplicate field `{name}`"
  | unknownField name expected => s!"unknown field `{name}`, expected {oneOf expected}"
  | unknownVariant name expected => s!"unknown variant `{name}`, expected {oneOf expected}"
  | invalidType found wanted => s!"invalid type: {found.describe}, expected {wanted}"
  | invalidValue found wanted => s!"invalid value: {found.describe}, expected {wanted}"
  | invalidLength length wanted => s!"invalid length {length}, expected {wanted}"

/-- The words for an error, where it has any. -/
def ReadError.message? : ReadError → Option String
  | malformed => none
  | problem p => some p.message

end EntityFilter.Json
