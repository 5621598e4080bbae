import EntityFilter.Number.Shortest

/-!
How a floating-point number is written: the shortest digits that read back, laid out positionally
or with an exponent as a `FloatLayout` says.
-/

namespace EntityFilter

/-- A way to write floating-point numbers.  Numbers whose leading digit has an exponent from
`least` up to and without `limit` are written positionally. -/
structure FloatLayout where
  least : Option Int
  limit : Option Int
  /-- A whole number written positionally ends in `.0`. -/
  keepsPoint : Bool
  tie : DecimalTie
  deriving DecidableEq, Repr

namespace FloatLayout

/-- Always positional, and a whole number has no point. -/
def plain : FloatLayout := ⟨none, none, false, .up⟩

/-- Positional from `1e-5` up to and without `1e16`, with at least one fractional digit; any other
number has an exponent with its sign. -/
def scientific : FloatLayout := ⟨some (-5), some 16, true, .even⟩

/-- The positional layout of digits whose first one has exponent `p`. -/
def positional (f : FloatLayout) (digits : List Char) (p : Int) : List Char :=
  if p < 0 then
    '0' :: '.' :: (List.replicate (-p - 1).toNat '0' ++ digits)
  else
    let whole := p.toNat + 1
    if digits.length ≤ whole then
      digits ++ List.replicate (whole - digits.length) '0' ++
        (if f.keepsPoint then ['.', '0'] else [])
    else digits.take whole ++ '.' :: digits.drop whole

def exponential (digits : List Char) (p : Int) : List Char :=
  let fraction := digits.drop 1
  digits.take 1 ++ (if fraction.isEmpty then [] else '.' :: fraction) ++
    'e' :: (if p < 0 then '-' else '+') :: Nat.toDigits 10 p.natAbs

/-- The digits of a positive number, laid out. -/
def layOut (f : FloatLayout) (d : ShortDecimal) : List Char :=
  let digits := Nat.toDigits 10 d.digits
  let p := d.leading
  let isPositional := f.least.all (· ≤ p) && f.limit.all (p < ·)
  if isPositional then f.positional digits p else exponential digits p

def write (f : FloatLayout) : Binary64 → String
  | .nan => "NaN"
  | .infinity s => if s then "-inf" else "inf"
  | .finite s m e =>
    let body :=
      if m = 0 then f.positional ['0'] 0 else f.layOut (ShortDecimal.ofFinite f.tie m e)
    String.ofList (if s then '-' :: body else body)

end FloatLayout
end EntityFilter
