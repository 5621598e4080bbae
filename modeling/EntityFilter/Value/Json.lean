import EntityFilter.Json.Printer
import EntityFilter.Value.Basic

/-!
Values from JSON and back.  What a scalar means depends on the kind of the field it is for, and the
JSON of a value means that value again.
-/

namespace EntityFilter

/-- Why a JSON value is no value of a kind.  A mismatch shows the JSON text. -/
inductive ConversionError where
  | mismatch (kind : Kind) (found : String)
  | unbindable (kind : Kind)
  deriving DecidableEq, Repr

def ConversionError.message : ConversionError → String
  | mismatch kind found => s!"expected a {kind} value, got {found}"
  | unbindable kind => s!"{kind} values cannot be bound from JSON"

namespace Value

/-- Digits, and possibly a point and more digits. -/
def isUnsignedDecimal (cs : List Char) : Bool :=
  let whole := cs.takeWhile (· ≠ '.')
  !whole.isEmpty && whole.all Char.isDigit &&
    match cs.drop whole.length with
    | [] => true
    | _ :: fraction => !fraction.isEmpty && fraction.all Char.isDigit

/-- The spelling of a decimal: digits, possibly a point and more digits, possibly a minus sign in
front. -/
def isDecimalLiteral (s : String) : Bool :=
  match s.toList with
  | '-' :: cs => isUnsignedDecimal cs
  | cs => isUnsignedDecimal cs

/-- The integer of 64 bits that a JSON number is. -/
def int64? : Json.Number → Option Int64
  | .integer i =>
    if -9223372036854775808 ≤ i ∧ i ≤ 9223372036854775807 then some (Int64.ofInt i) else none
  | .float _ => none

def binary64 : Json.Number → Binary64
  | .integer i => .ofInt i
  | .float x => x

/-- The value of a kind that a JSON scalar other than null spells, if there is one. -/
def ofScalar? (kind : Kind) (j : Json) : Option Value :=
  match kind, j with
  | .text, .string s => some (text s)
  | .fixedText, .string s => some (text s)
  | .ansiText, .string s => some (text s)
  | .ansiFixedText, .string s => some (text s)
  | .integer, .number n => (int64? n).map integer
  | .float, .number n => some (float (binary64 n))
  | .decimal, .number n => some (decimal n.write)
  | .decimal, .string s => if isDecimalLiteral s then some (decimal s) else none
  | .boolean, .bool b => some (boolean b)
  | .date, .string s => (Date.read? s.toList).map date
  | .dateTime, .string s => (Instant.read? s.toList).map dateTime
  | .guid, .string s => (Guid.read? s.toList).map guid
  | _, _ => none

/-- The value of a kind that a JSON value spells.  Null is null under every kind. -/
def ofJson (kind : Kind) (j : Json) : Except ConversionError Value :=
  if j.isNull then .ok null
  else if kind = .binary then .error (.unbindable kind)
  else
    match ofScalar? kind j with
    | some v => .ok v
    | none => .error (.mismatch kind j.compact)

/-- The JSON of a value.  A number that is not finite is null, and a decimal is a string. -/
def toJson : Value → Json
  | null => .null
  | text s => .string s
  | integer i => .number (.integer i.toInt)
  | float x =>
    match x with
    | .finite .. => .number (.float x)
    | _ => .null
  | decimal s => .string s
  | boolean b => .bool b
  | date d => .string (toString d)
  | dateTime t => .string t.toZulu
  | guid g => .string (toString g)

end Value
end EntityFilter
