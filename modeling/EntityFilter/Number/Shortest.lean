import EntityFilter.Number.Binary64

/-!
The shortest decimal that reads back as a given number.  A decimal reads back when it lies in the
interval of reals that round to the number, and that interval has its ends when the mantissa is
even.  The digits are found on the coarsest decimal grid that has a point in the interval; of two
points the nearer one is taken.
-/

namespace EntityFilter

/-- Which of two equally near decimals is taken. -/
inductive DecimalTie where
  | up
  | even
  deriving DecidableEq, Repr

/-- A positive decimal: `digits * 10 ^ exponent`. -/
structure ShortDecimal where
  digits : Nat
  exponent : Int
  deriving DecidableEq, Repr

namespace ShortDecimal

def width (n : Nat) : Nat := (Nat.toDigits 10 n).length

/-- The exponent `p` with `10 ^ p ≤ num / den < 10 ^ (p + 1)`, for a positive quotient. -/
def leadingExponent (num den : Nat) : Int :=
  if den ≤ num then (width (num / den) : Int) - 1
  else -(width ((den + num - 1) / num - 1) : Int)

/-- Drops trailing zeros, at most `fuel` of them. -/
def stripZeros : Nat → Nat → Int → ShortDecimal
  | fuel + 1, n, e =>
    if n % 10 = 0 ∧ n ≠ 0 then stripZeros fuel (n / 10) (e + 1) else ⟨n, e⟩
  | 0, n, e => ⟨n, e⟩

/-- The interval of a number in quarters of its last binary place: the distance from four times the
mantissa down to the lower end, and up to the upper end.  Below a power of two numbers lie twice as
close. -/
def gaps (mantissa : Nat) (exponent : Int) : Nat × Nat :=
  if mantissa = Nat.pow 2 52 ∧ Binary64.minExponent < exponent then (1, 2) else (2, 2)

/-- A quarter of the last binary place, `2 ^ (exponent - 2)`, over the step `10 ^ step` of a decimal
grid. -/
def quarterOverStep (exponent step : Int) : Nat × Nat :=
  let (a, b) := Binary64.shiftQuotient 1 1 (exponent - 2)
  if 0 ≤ step then (a, b * Nat.pow 10 step.toNat) else (a * Nat.pow 10 (-step).toNat, b)

/-- The point of the grid of `n` significant digits that reads back as `mantissa * 2 ^ exponent`,
if the grid has one. -/
def onGrid? (tie : DecimalTie) (mantissa : Nat) (exponent : Int) (n : Nat) :
    Option ShortDecimal :=
  let (num, den) := Binary64.magnitude mantissa exponent
  let step : Int := leadingExponent num den - (n : Int) + 1
  let (a, b) := quarterOverStep exponent step
  let (below, above) := gaps mantissa exponent
  let lower := (4 * mantissa - below) * a
  let upper := (4 * mantissa + above) * a
  let inside (d : Nat) : Bool :=
    if mantissa % 2 = 0 then lower ≤ d * b && d * b ≤ upper
    else lower < d * b && d * b < upper
  let d := 4 * mantissa * a / b
  let r := 4 * mantissa * a % b
  let nearer :=
    if 2 * r < b then d
    else if b < 2 * r then d + 1
    else match tie with
      | .up => d + 1
      | .even => d + d % 2
  match inside d, inside (d + 1) with
  | true, true => some ⟨nearer, step⟩
  | true, false => some ⟨d, step⟩
  | false, true => some ⟨d + 1, step⟩
  | false, false => none

/-- The shortest decimal of a positive finite number.  Seventeen digits always suffice. -/
def ofFinite (tie : DecimalTie) (mantissa : Nat) (exponent : Int) : ShortDecimal :=
  let found := (List.range 17).findSome? fun k => onGrid? tie mantissa exponent (k + 1)
  let d := found.getD ⟨mantissa, exponent⟩
  stripZeros (width d.digits) d.digits d.exponent

def leading (d : ShortDecimal) : Int := d.exponent + (width d.digits : Int) - 1

end ShortDecimal
end EntityFilter
