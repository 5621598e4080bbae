import EntityFilter.Calendar.Instant
import EntityFilter.Guid
import EntityFilter.Kind
import EntityFilter.Number.Layout

/-!
The values that parameters are bound to, how they are shown, and under which kinds of field a value
can be bound.
-/

namespace EntityFilter

/-- A value of a parameter.  A decimal is kept as it is spelled, so it stays exact. -/
inductive Value where
  | null
  | text (s : String)
  | integer (i : Int64)
  | float (x : Binary64)
  | decimal (s : String)
  | boolean (b : Bool)
  | date (d : Date)
  | dateTime (t : Instant)
  | guid (g : Guid)
  deriving DecidableEq

namespace Value

def isNull : Value → Bool
  | null => true
  | _ => false

theorem isNull_iff {v : Value} : v.isNull = true ↔ v = null := by
  cases v <;> simp [isNull]

def asText? : Value → Option String
  | text s => some s
  | _ => none

def typeName : Value → String
  | null => "null"
  | text _ => "text"
  | integer _ => "integer"
  | float _ => "float"
  | decimal _ => "decimal"
  | boolean _ => "boolean"
  | date _ => "date"
  | dateTime _ => "date_time"
  | guid _ => "guid"

/-- Whether a value can be bound under a kind.  Null fits every kind, and an integer fits every kind
of number. -/
def fits (k : Kind) : Value → Bool
  | null => true
  | text _ => k.isTextual
  | integer _ => k == .integer || k == .decimal || k == .float
  | float _ => k == .float
  | decimal _ => k == .decimal
  | boolean _ => k == .boolean
  | date _ => k == .date
  | dateTime _ => k == .dateTime
  | guid _ => k == .guid

def display : Value → String
  | null => "NULL"
  | text s => s
  | integer i => toString i.toInt
  | float x => FloatLayout.plain.write x
  | decimal s => s
  | boolean b => toString b
  | date d => toString d
  | dateTime t => toString t
  | guid g => toString g

end Value
end EntityFilter
