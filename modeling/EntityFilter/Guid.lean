/-!
Globally unique identifiers: thirty-two hexadecimal digits, read in four spellings and written in
one of them.
-/

namespace EntityFilter

/-- A digit of a hexadecimal numeral in lower case. -/
def isLowerHex (c : Char) : Bool := c.isDigit || ('a' ≤ c && c ≤ 'f')

/-- A globally unique identifier, as its thirty-two digits in lower case. -/
structure Guid where
  digits : List Char
  length_eq : digits.length = 32
  all_hex : digits.all isLowerHex = true
  deriving DecidableEq

namespace Guid

/-- The lengths of the five groups of the hyphenated spelling. -/
def groups : List Nat := [8, 4, 4, 4, 12]

/-- The digits of a spelling with hyphens between groups of the given lengths. -/
def readGroups? : List Nat → List Char → Option (List Char)
  | [], cs => if cs.isEmpty then some [] else none
  | [n], cs => if cs.length = n then some cs else none
  | n :: ns, cs =>
    match cs.drop n with
    | '-' :: rest => (readGroups? ns rest).map (cs.take n ++ ·)
    | _ => none

def ofDigits? (cs : List Char) : Option Guid :=
  let ds := cs.map Char.toLower
  if h : ds.length = 32 ∧ ds.all isLowerHex = true then some ⟨ds, h.1, h.2⟩ else none

def readHyphenated? (cs : List Char) : Option Guid := (readGroups? groups cs).bind ofDigits?

/-- The start of the spelling as a uniform resource name. -/
def urnStart : List Char := ['u', 'r', 'n', ':', 'u', 'u', 'i', 'd', ':']

/-- The identifier that a text spells: its digits alone, hyphenated, hyphenated between braces, or
hyphenated after `urn:uuid:`.  Letters may have either case. -/
def read? (cs : List Char) : Option Guid :=
  if cs.length = 32 then ofDigits? cs
  else if cs.length = 36 then readHyphenated? cs
  else if cs.length = 38 then
    match cs with
    | '\x7b' :: rest => if rest.getLast? = some '\x7d' then readHyphenated? rest.dropLast else none
    | _ => none
  else if cs.length = 45 ∧ (cs.take 9).map Char.toLower = urnStart then
    readHyphenated? (cs.drop 9)
  else none

/-- Digits in groups of the given lengths, with hyphens between the groups. -/
def writeGroups : List Nat → List Char → List Char
  | [], cs => cs
  | [_], cs => cs
  | n :: ns, cs => cs.take n ++ '-' :: writeGroups ns (cs.drop n)

def write (g : Guid) : List Char := writeGroups groups g.digits

instance : ToString Guid := ⟨fun g => String.ofList g.write⟩

end Guid
end EntityFilter
