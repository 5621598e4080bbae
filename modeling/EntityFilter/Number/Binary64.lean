/-!
Binary floating-point numbers of 64 bits, held exactly: a sign, a mantissa below `2 ^ 53` and a
power of two.  Every quotient of natural numbers has a nearest number, and a tie goes to the even
mantissa; reading a decimal literal and scaling by a power of ten are roundings of that kind.
-/

namespace EntityFilter

/-- A number of the format, an infinity, or no number at all.  The magnitude of `finite` is
`mantissa * 2 ^ exponent`. -/
inductive Binary64 where
  | nan
  | infinity (negative : Bool)
  | finite (negative : Bool) (mantissa : Nat) (exponent : Int)
  deriving DecidableEq, Repr

namespace Binary64

/-- Mantissas stay below `2 ^ precision`. -/
def precision : Nat := 53

def minExponent : Int := -1074

def maxExponent : Int := 971

/-- The natural number nearest to `num / den`; halfway between two, the even one. -/
def roundQuotient (num den : Nat) : Nat :=
  let q := num / den
  let r := num % den
  if 2 * r < den then q
  else if den < 2 * r then q + 1
  else q + q % 2

/-- The quotient `num / den` of natural numbers times `2 ^ k`, as a quotient. -/
def shiftQuotient (num den : Nat) (k : Int) : Nat × Nat :=
  if 0 ≤ k then (num * Nat.pow 2 k.toNat, den) else (num, den * Nat.pow 2 (-k).toNat)

/-- The exponent that gives `num / den` a mantissa of full precision, or the least exponent when
the quotient is too small for one. -/
def quotientExponent (num den : Nat) : Int :=
  let k : Int := (num.log2 : Int) - den.log2
  let (a, b) := shiftQuotient num den (-k)
  max minExponent (if b ≤ a then k - 52 else k - 53)

/-- The number nearest to `num / den` for a positive `den`, with the given sign; an infinity when
it lies beyond the greatest finite number. -/
def ofQuotient (negative : Bool) (num den : Nat) : Binary64 :=
  if num = 0 then finite negative 0 minExponent
  else
    let e := quotientExponent num den
    let (a, b) := shiftQuotient num den (-e)
    let m := roundQuotient a b
    let (m, e) := if m = Nat.pow 2 precision then (Nat.pow 2 (precision - 1), e + 1) else (m, e)
    if maxExponent < e then infinity negative else finite negative m e

def ofNat (negative : Bool) (n : Nat) : Binary64 := ofQuotient negative n 1

def ofInt (i : Int) : Binary64 := ofNat (i < 0) i.natAbs

/-- The magnitude of a finite number as a quotient. -/
def magnitude (mantissa : Nat) (exponent : Int) : Nat × Nat :=
  shiftQuotient mantissa 1 exponent

def isZero : Binary64 → Bool
  | finite _ m _ => m == 0
  | _ => false

/-- An infinity, of either sign. -/
def isInfinite : Binary64 → Bool
  | infinity _ => true
  | _ => false

def withSign (negative : Bool) : Binary64 → Binary64
  | nan => nan
  | infinity _ => infinity negative
  | finite _ m e => finite negative m e

/-- A finite number times the number nearest to `10 ^ n`, rounded. -/
def timesPowerOfTen (n : Nat) : Binary64 → Binary64
  | finite s m e =>
    match ofNat false (Nat.pow 10 n) with
    | finite _ m' e' =>
      let (a, b) := magnitude (m * m') (e + e')
      ofQuotient s a b
    | _ => infinity s
  | x => x

/-- A finite number over the number nearest to `10 ^ n`, rounded. -/
def overPowerOfTen (n : Nat) : Binary64 → Binary64
  | finite s m e =>
    match ofNat false (Nat.pow 10 n) with
    | finite _ m' e' =>
      let (a, b) := shiftQuotient m m' (e - e')
      ofQuotient s a b
    | _ => finite s 0 minExponent
  | x => x

/-- The number nearest to `digits * 10 ^ exponent`.  Far outside the range of the format the
answer is zero or an infinity, without computing the power. -/
def ofDecimal (negative : Bool) (digits : Nat) (exponent : Int) : Binary64 :=
  let width : Int := (Nat.toDigits 10 digits).length
  if digits = 0 ∨ exponent + width < -400 then finite negative 0 minExponent
  else if 400 < exponent + width then infinity negative
  else if 0 ≤ exponent then ofQuotient negative (digits * Nat.pow 10 exponent.toNat) 1
  else ofQuotient negative digits (Nat.pow 10 (-exponent).toNat)

end Binary64
end EntityFilter
