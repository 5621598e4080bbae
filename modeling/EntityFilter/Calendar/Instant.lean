import EntityFilter.Calendar.Date

/-!
Instants in UTC to the nanosecond, read from the timestamps of RFC 3339 with any offset and written
in the same format.
-/

namespace EntityFilter

/-- A date, a second of that day and a number of nanoseconds, in UTC.  Nanoseconds from a billion
on belong to a leap second, which follows the second it is counted with. -/
structure Instant where
  date : Date
  second : Nat
  nano : Nat
  second_lt : second < 86400
  nano_lt : nano < 2000000000
  deriving DecidableEq

namespace Instant

/-- The instant `seconds` after the start of `date`; the count may reach into the day before or
after. -/
def ofSeconds? (date : Date) (seconds : Int) (nano : Nat) : Option Instant :=
  let (date?, second) :=
    if seconds < 0 then (date.prev?, (seconds + 86400).toNat)
    else if seconds < 86400 then (some date, seconds.toNat)
    else (date.next?, (seconds - 86400).toNat)
  date?.bind fun d =>
    if h : second < 86400 ∧ nano < 2000000000 then some ⟨d, second, nano, h.1, h.2⟩ else none

/-- A time of day at the front of a text, as its second and nanosecond: `hh:mm:ss` and possibly a
fraction, of which nine digits count.  The second 60 is a leap second, at any minute. -/
def readTime? (cs : List Char) : Option (Nat × Nat × List Char) := do
  let (hour, cs) ← Text.readFixed? 2 cs
  let cs ← Text.expect? ':' cs
  let (minute, cs) ← Text.readFixed? 2 cs
  let cs ← Text.expect? ':' cs
  let (second, cs) ← Text.readFixed? 2 cs
  let (fraction, cs) ← match cs with
    | '.' :: rest =>
      let (ds, rest) := Text.spanDigits none rest
      if ds.isEmpty then none
      else
        let counted := ds.take 9
        some (Text.digitsValue counted * Nat.pow 10 (9 - counted.length), rest)
    | _ => some (0, cs)
  if hour < 24 ∧ minute < 60 ∧ second < 61 then
    let leap := second / 60
    some (3600 * hour + 60 * minute + (second - leap), leap * 1000000000 + fraction, cs)
  else none

/-- The sign of an offset: a plus sign, a hyphen or the minus sign of Unicode. -/
def readSign? : List Char → Option (Bool × List Char)
  | '+' :: cs => some (false, cs)
  | '-' :: cs => some (true, cs)
  | c :: cs => if c = Char.ofNat 0x2212 then some (true, cs) else none
  | [] => none

/-- The offset from UTC that ends a timestamp, in seconds: `Z`, or a sign, hours and minutes with
a colon between them. -/
def readOffset? : List Char → Option (Int × List Char)
  | 'Z' :: cs => some (0, cs)
  | 'z' :: cs => some (0, cs)
  | cs => do
    let (negative, cs) ← readSign? cs
    let (hours, cs) ← Text.readFixed? 2 cs
    let cs ← Text.expect? ':' cs
    let (minutes, cs) ← Text.readFixed? 2 cs
    if hours < 24 ∧ minutes < 60 then
      let seconds : Int := 3600 * hours + 60 * minutes
      some (if negative then -seconds else seconds, cs)
    else none

/-- The instant that a timestamp of RFC 3339 names: year in four digits, month and day in two,
a `T` or a space, a time of day and an offset. -/
def read? (cs : List Char) : Option Instant := do
  let (year, cs) ← Text.readFixed? 4 cs
  let cs ← Text.expect? '-' cs
  let (month, cs) ← Text.readFixed? 2 cs
  let cs ← Text.expect? '-' cs
  let (day, cs) ← Text.readFixed? 2 cs
  let cs ← match cs with
    | c :: rest => if c = 'T' ∨ c = 't' ∨ c = ' ' then some rest else none
    | [] => none
  let (second, nano, cs) ← readTime? cs
  let (offset, cs) ← readOffset? cs
  let date ← Date.ofCivil? year month day
  if cs.isEmpty then ofSeconds? date ((second : Int) - offset) nano else none

/-- A fraction of a second: nothing, or three, six or nine digits. -/
def writeFraction (nano : Nat) : List Char :=
  if nano = 0 then []
  else if nano % 1000000 = 0 then '.' :: Text.padded 3 (nano / 1000000)
  else if nano % 1000 = 0 then '.' :: Text.padded 6 (nano / 1000)
  else '.' :: Text.padded 9 nano

/-- The timestamp of an instant, with `zone` for its offset of zero. -/
def write (zone : List Char) (t : Instant) : List Char :=
  let leap := t.nano / 1000000000
  t.date.write ++ 'T' :: Text.padded 2 (t.second / 3600) ++
    ':' :: Text.padded 2 (t.second / 60 % 60) ++
    ':' :: Text.padded 2 (t.second % 60 + leap) ++
    writeFraction (t.nano % 1000000000) ++ zone

instance : ToString Instant := ⟨fun t => String.ofList (t.write ['+', '0', '0', ':', '0', '0'])⟩

def toZulu (t : Instant) : String := String.ofList (t.write ['Z'])

end Instant
end EntityFilter
