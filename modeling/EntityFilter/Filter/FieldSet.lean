import EntityFilter.Entity

/-!
Sets of fields in the order in which they were added.  Fields of one column count as one.
-/

namespace EntityFilter

structure FieldSet where
  fields : List Field := []
  deriving DecidableEq, Repr, Inhabited

namespace FieldSet

def contains (s : FieldSet) (nativeName : String) : Bool :=
  s.fields.any (·.nativeName == nativeName)

/-- Adds a field at the end, unless its column is there already. -/
def add (s : FieldSet) (f : Field) : FieldSet :=
  if s.contains f.nativeName then s else ⟨s.fields ++ [f]⟩

def addAll (s : FieldSet) (fs : List Field) : FieldSet := fs.foldl add s

def isEmpty (s : FieldSet) : Bool := s.fields.isEmpty

def size (s : FieldSet) : Nat := s.fields.length

end FieldSet
end EntityFilter
