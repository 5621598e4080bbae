/-!
The kinds of fields, and what can be done with a field of each kind.
-/

namespace EntityFilter

inductive Kind where
  | text
  | fixedText
  | ansiText
  | ansiFixedText
  | integer
  | decimal
  | float
  | boolean
  | date
  | dateTime
  | guid
  | binary
  deriving DecidableEq, Repr, Inhabited

namespace Kind

/-- Every kind, in the order in which kinds are listed. -/
def all : List Kind :=
  [text, fixedText, ansiText, ansiFixedText, integer, decimal, float, boolean, date, dateTime,
    guid, binary]

def name : Kind → String
  | text => "text"
  | fixedText => "fixed_text"
  | ansiText => "ansi_text"
  | ansiFixedText => "ansi_fixed_text"
  | integer => "integer"
  | decimal => "decimal"
  | float => "float"
  | boolean => "boolean"
  | date => "date"
  | dateTime => "date_time"
  | guid => "guid"
  | binary => "binary"

instance : ToString Kind := ⟨name⟩

def named : List (String × Kind) := all.map fun k => (k.name, k)

def isTextual : Kind → Bool
  | text | fixedText | ansiText | ansiFixedText => true
  | _ => false

def isOrdered : Kind → Bool
  | boolean | guid | binary => false
  | _ => true

/-- Kinds whose values can be told equal or not. -/
def isComparable : Kind → Bool
  | binary => false
  | _ => true

end Kind
end EntityFilter
