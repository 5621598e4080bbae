/-!
Decimal digits at the front of a text, and numbers written with a least width.
-/

namespace EntityFilter.Text

/-- The value of a decimal digit of ASCII. -/
def digitValue (c : Char) : Nat := c.toNat - '0'.toNat

def digitsValue (ds : List Char) : Nat := ds.foldl (fun n c => 10 * n + digitValue c) 0

/-- The digits at the front of a text, at most `limit` of them where there is a limit, and what
follows them. -/
def spanDigits (limit : Option Nat) (cs : List Char) : List Char × List Char :=
  let run := cs.takeWhile Char.isDigit
  let ds := match limit with
    | some n => run.take n
    | none => run
  (ds, cs.drop ds.length)

/-- The number spelled by the digits at the front of a text, at least one and at most `limit`. -/
def readNumber? (limit : Option Nat) (cs : List Char) : Option (Nat × List Char) :=
  let (ds, rest) := spanDigits limit cs
  if ds.isEmpty then none else some (digitsValue ds, rest)

/-- The number spelled by exactly `n` digits at the front of a text. -/
def readFixed? (n : Nat) (cs : List Char) : Option (Nat × List Char) :=
  let (ds, rest) := spanDigits (some n) cs
  if ds.length = n then some (digitsValue ds, rest) else none

/-- What follows the character `c` at the front of a text. -/
def expect? (c : Char) : List Char → Option (List Char)
  | d :: rest => if d = c then some rest else none
  | [] => none

def padded (width n : Nat) : List Char :=
  let ds := Nat.toDigits 10 n
  List.replicate (width - ds.length) '0' ++ ds

end EntityFilter.Text
