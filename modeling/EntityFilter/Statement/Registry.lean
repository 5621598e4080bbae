import EntityFilter.FilterError

/-!
Names of parameters.  A generated name is a stem and a number from a counter that only moves on;
numbers whose name is taken are skipped, so names never collide.
-/

namespace EntityFilter

/-- The names that a statement has given out, the stem of the next ones and the last number used. -/
structure Registry where
  stem : String := "p"
  counter : Nat := 0
  issued : List String := []
  deriving DecidableEq, Repr, Inhabited

namespace Registry

def nameAt (r : Registry) (k : Nat) : String := r.stem ++ toString k

def isIssued (r : Registry) (name : String) : Bool := r.issued.contains name

/-- The first number from `k` on whose name is free, among the next `fuel` numbers; the number
behind them if all are taken. -/
def firstFree (r : Registry) : Nat → Nat → Nat
  | 0, k => k
  | fuel + 1, k => if r.isIssued (r.nameAt k) then firstFree r fuel (k + 1) else k

/-- The next number with a free name.  Of `n + 1` numbers one has a name that is not among the `n`
names taken. -/
def next (r : Registry) : Nat := r.firstFree r.issued.length (r.counter + 1)

/-- A new name, and the registry that has given it out. -/
def allocate (r : Registry) : String × Registry :=
  let k := r.next
  (r.nameAt k, { r with counter := k, issued := r.nameAt k :: r.issued })

def reserve (r : Registry) (name : String) : Except FilterError Registry :=
  if r.isIssued name then .error (.duplicateParameter name)
  else .ok { r with issued := name :: r.issued }

/-- Gives names back and sets the counter to where it was before them. -/
def release (r : Registry) (counter : Nat) (names : List String) : Registry :=
  { r with counter, issued := r.issued.filter fun name => !names.contains name }

end Registry
end EntityFilter
