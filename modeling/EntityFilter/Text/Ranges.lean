/-!
Classes of characters, each given by ranges of code points.
-/

namespace EntityFilter.Text

abbrev Ranges := List (Nat × Nat)

/-- Whether one of the ranges has the character. -/
def Ranges.covers (ranges : Ranges) (c : Char) : Bool :=
  ranges.any fun r => r.1 ≤ c.toNat && c.toNat ≤ r.2

end EntityFilter.Text
