import EntityFilter.Json.Basic
import EntityFilter.Text.Digits

/-!
Number and string literals of JSON texts: which texts are literals, and which value each has.  A
literal may lack a value: a number beyond the range of floating-point numbers, or a string with
half a surrogate pair.
-/

namespace EntityFilter.Json

structure NumberLiteral where
  negative : Bool
  whole : List Char
  fraction : Option (List Char)
  exponent : Option Int
  deriving DecidableEq, Repr

namespace NumberLiteral

/-- The exponent part at the front of a text, if there is one; `none` if the text goes wrong
there. -/
def readExponent? : List Char → Option (Option Int × List Char)
  | c :: cs =>
    if c = 'e' ∨ c = 'E' then
      let (negative, cs) := match cs with
        | '+' :: rest => (false, rest)
        | '-' :: rest => (true, rest)
        | _ => (false, cs)
      (Text.readNumber? none cs).map fun (n, rest) =>
        (some (if negative then -(n : Int) else n), rest)
    else some (none, c :: cs)
  | [] => some (none, [])

/-- The fraction part at the front of a text, if there is one; `none` if the text goes wrong
there. -/
def readFraction? : List Char → Option (Option (List Char) × List Char)
  | '.' :: cs =>
    let (ds, rest) := Text.spanDigits none cs
    if ds.isEmpty then none else some (some ds, rest)
  | cs => some (none, cs)

/-- The literal at the front of a text.  A whole part of several digits does not start with
zero. -/
def read? (cs : List Char) : Option (NumberLiteral × List Char) := do
  let (negative, cs) := match cs with
    | '-' :: rest => (true, rest)
    | _ => (false, cs)
  let (whole, cs) := Text.spanDigits none cs
  if whole.isEmpty ∨ (whole.head? = some '0' ∧ 1 < whole.length) then none
  else
    let (fraction, cs) ← readFraction? cs
    let (exponent, cs) ← readExponent? cs
    some (⟨negative, whole, fraction, exponent⟩, cs)

/-- Digits are taken up as long as the number they spell stays below `2 ^ 64`; the rest is left. -/
def takeDigits (n : Nat) : List Char → Nat × List Char
  | [] => (n, [])
  | c :: cs =>
    let n' := 10 * n + Text.digitValue c
    if n' < Nat.pow 2 64 then takeDigits n' cs else (n, c :: cs)

/-- A number times ten to an exponent, in steps of at most `10 ^ 308`; `none` beyond the range of
the format. -/
def scale? : Nat → Binary64 → Int → Option Binary64
  | fuel + 1, x, e =>
    if e.natAbs ≤ 308 then
      if 0 ≤ e then
        let y := x.timesPowerOfTen e.toNat
        if y.isInfinite then none else some y
      else some (x.overPowerOfTen (-e).toNat)
    else if x.isZero then some x
    else if 0 ≤ e then none
    else scale? fuel (x.overPowerOfTen 308) (e + 308)
  | 0, x, _ => some x

/-- The floating-point value of a literal: as many leading digits as fit 64 bits, rounded, then
scaled by a power of ten and rounded again.  Four steps of scaling take any 64-bit integer to
zero. -/
def float? (l : NumberLiteral) : Option Binary64 :=
  let (n, left) := takeDigits 0 l.whole
  let fraction := l.fraction.getD []
  let (n, left') := takeDigits n fraction
  let shift : Int := (left.length : Int) - (fraction.length - left'.length : Nat)
  (scale? 4 (Binary64.ofNat false n) (shift + l.exponent.getD 0)).map
    (Binary64.withSign l.negative)

/-- The value of a literal: an integer when it has neither fraction nor exponent and fits 64 bits,
and is not a negative zero. -/
def value? (l : NumberLiteral) : Option Number :=
  let n := Text.digitsValue l.whole
  if l.fraction.isNone ∧ l.exponent.isNone ∧ l.negative = false ∧ n < Nat.pow 2 64 then
    some (.integer n)
  else if l.fraction.isNone ∧ l.exponent.isNone ∧ l.negative = true ∧ 0 < n ∧ n ≤ Nat.pow 2 63 then
    some (.integer (-n))
  else l.float?.map .float

end NumberLiteral

/-- A part of a string literal: a character, or a code unit given by its number. -/
inductive StringPart where
  | char (c : Char)
  | unit (n : Nat)
  deriving DecidableEq, Repr

namespace StringPart

def hexValue? (c : Char) : Option Nat :=
  if '0' ≤ c ∧ c ≤ '9' then some (c.toNat - '0'.toNat)
  else if 'a' ≤ c ∧ c ≤ 'f' then some (c.toNat - 'a'.toNat + 10)
  else if 'A' ≤ c ∧ c ≤ 'F' then some (c.toNat - 'A'.toNat + 10)
  else none

/-- The code unit that four hexadecimal digits give. -/
def unit? (a b c d : Char) : Option StringPart := do
  let a ← hexValue? a
  let b ← hexValue? b
  let c ← hexValue? c
  let d ← hexValue? d
  return .unit (4096 * a + 256 * b + 16 * c + d)

/-- The character that follows a backslash, in the short escapes. -/
def ofEscape? (c : Char) : Option Char :=
  if c = '"' ∨ c = '\\' ∨ c = '/' then some c
  else if c = 'b' then some (Char.ofNat 8)
  else if c = 'f' then some (Char.ofNat 12)
  else if c = 'n' then some '\n'
  else if c = 'r' then some '\r'
  else if c = 't' then some '\t'
  else none

/-- The parts of a string up to its closing quote, and the text after that quote. -/
def readAll? : List Char → Option (List StringPart × List Char)
  | [] => none
  | '"' :: rest => some ([], rest)
  | '\\' :: 'u' :: a :: b :: c :: d :: rest => do
    let part ← unit? a b c d
    let (parts, rest) ← readAll? rest
    return (part :: parts, rest)
  | '\\' :: e :: rest => do
    let c ← ofEscape? e
    let (parts, rest) ← readAll? rest
    return (.char c :: parts, rest)
  | c :: rest =>
    if c = '\\' ∨ c.toNat < 32 then none
    else do
      let (parts, rest) ← readAll? rest
      return (.char c :: parts, rest)

def isHigh (n : Nat) : Bool := 0xD800 ≤ n && n ≤ 0xDBFF

def isLow (n : Nat) : Bool := 0xDC00 ≤ n && n ≤ 0xDFFF

def pair (high low : Nat) : Char :=
  Char.ofNat (0x10000 + 0x400 * (high - 0xD800) + (low - 0xDC00))

/-- The characters of a string, if every surrogate has its partner. -/
def assemble? : List StringPart → Option (List Char)
  | [] => some []
  | .char c :: rest => (assemble? rest).map (c :: ·)
  | .unit n :: .unit m :: rest =>
    if isHigh n then
      if isLow m then (assemble? rest).map (pair n m :: ·) else none
    else if isLow n then none
    else (assemble? (.unit m :: rest)).map (Char.ofNat n :: ·)
  | .unit n :: rest =>
    if isHigh n || isLow n then none else (assemble? rest).map (Char.ofNat n :: ·)

end StringPart
end EntityFilter.Json
