import EntityFilter.Text.Blank
import EntityFilter.Text.Digits

/-!
Dates of the proleptic Gregorian calendar, how they are read and how they are written.  The written
form is one of the forms that are read.
-/

namespace EntityFilter

def isLeapYear (year : Int) : Bool :=
  year % 4 == 0 && (year % 100 != 0 || year % 400 == 0)

def daysInMonth (year : Int) (month : Nat) : Nat :=
  if month = 2 then (if isLeapYear year then 29 else 28)
  else if month = 4 ∨ month = 6 ∨ month = 9 ∨ month = 11 then 30
  else 31

/-- A year, month and day that name a date.  Years go from 262144 BCE, which is the year -262143,
to 262142. -/
def IsCivilDate (year : Int) (month day : Nat) : Prop :=
  (-262143 ≤ year ∧ year ≤ 262142) ∧ (1 ≤ month ∧ month ≤ 12) ∧
    (1 ≤ day ∧ day ≤ daysInMonth year month)

instance (year : Int) (month day : Nat) : Decidable (IsCivilDate year month day) :=
  inferInstanceAs (Decidable (_ ∧ _ ∧ _))

structure Date where
  year : Int
  month : Nat
  day : Nat
  civil : IsCivilDate year month day
  deriving DecidableEq

namespace Date

/-- The date of a year, month and day, if they name one. -/
def ofCivil? (year : Int) (month day : Nat) : Option Date :=
  if h : IsCivilDate year month day then some ⟨year, month, day, h⟩ else none

@[simp] theorem ofCivil?_self (d : Date) : ofCivil? d.year d.month d.day = some d := by
  simp [ofCivil?, d.civil]

/-- The day after a date, unless the calendar ends. -/
def next? (d : Date) : Option Date :=
  if d.day < daysInMonth d.year d.month then ofCivil? d.year d.month (d.day + 1)
  else if d.month < 12 then ofCivil? d.year (d.month + 1) 1
  else ofCivil? (d.year + 1) 1 1

/-- The day before a date, unless the calendar ends. -/
def prev? (d : Date) : Option Date :=
  if 1 < d.day then ofCivil? d.year d.month (d.day - 1)
  else if 1 < d.month then
    ofCivil? d.year (d.month - 1) (daysInMonth d.year (d.month - 1))
  else ofCivil? (d.year - 1) 12 31

/-- A year at the front of a text: a sign and any number of digits, or at most four digits. -/
def readYear? : List Char → Option (Int × List Char)
  | '-' :: cs => (Text.readNumber? none cs).map fun (n, rest) => (-(n : Int), rest)
  | '+' :: cs => (Text.readNumber? none cs).map fun (n, rest) => ((n : Int), rest)
  | cs => (Text.readNumber? (some 4) cs).map fun (n, rest) => ((n : Int), rest)

/-- The date that a text spells: year, month and day with hyphens between them, white space allowed
before each of the three, one or two digits for month and day. -/
def read? (cs : List Char) : Option Date := do
  let (year, cs) ← readYear? (Text.trimStart cs)
  let cs ← Text.expect? '-' cs
  let (month, cs) ← Text.readNumber? (some 2) (Text.trimStart cs)
  let cs ← Text.expect? '-' cs
  let (day, cs) ← Text.readNumber? (some 2) (Text.trimStart cs)
  if cs.isEmpty then ofCivil? year month day else none

/-- A year in four digits; one outside 0 to 9999 has a sign and at least four digits. -/
def writeYear (year : Int) : List Char :=
  if 0 ≤ year ∧ year ≤ 9999 then Text.padded 4 year.toNat
  else (if year < 0 then '-' else '+') :: Text.padded 4 year.natAbs

/-- The text of a date: year, month and day, the last two in two digits. -/
def write (d : Date) : List Char :=
  writeYear d.year ++ '-' :: Text.padded 2 d.month ++ '-' :: Text.padded 2 d.day

instance : ToString Date := ⟨fun d => String.ofList d.write⟩

end Date
end EntityFilter
