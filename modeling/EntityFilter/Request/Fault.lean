import EntityFilter.Json.Problem
import EntityFilter.Value.Json

/-!
What can be wrong with a filter request, and the words for it.
-/

namespace EntityFilter

/-- Why a condition of a request states no criterion.  What was found is shown as JSON text. -/
inductive ConditionFault where
  | conversion (e : ConversionError)
  | notAnArray (found : String)
  | boundCount
  | notAPattern (found : String)
  deriving DecidableEq, Repr

inductive RequestFault where
  | tooLarge
  | unreadable (e : Json.ReadError)
  | tooManyFilters
  | condition (field : String) (fault : ConditionFault)
  deriving DecidableEq, Repr

/-- The words for a fault of a condition. -/
def ConditionFault.message : ConditionFault → String
  | conversion e => e.message
  | notAnArray found => s!"expected an array, got {found}"
  | boundCount => "between expects exactly two bounds"
  | notAPattern found => s!"expected a string pattern, got {found}"

namespace RequestFault

/-- The greatest size of a request, in bytes. -/
def maxSize : Nat := 65536

/-- The greatest number of filters of a request. -/
def maxFilters : Nat := 50

/-- The words for a fault.  A text that is not JSON has none. -/
def message? : RequestFault → Option String
  | tooLarge => some s!"request JSON exceeds maximum size of {maxSize} bytes"
  | unreadable e => e.message?
  | tooManyFilters => some s!"maximum {maxFilters} filters allowed"
  | condition field fault => some s!"field '{field}': {fault.message}"

end RequestFault
end EntityFilter
