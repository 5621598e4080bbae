import EntityFilter.Json.Basic
import EntityFilter.Number.Layout

/-!
The text of JSON values: compact, or laid out over lines.  A string is written with an escape for
quotes, backslashes and control characters, and with every other character as it is.
-/

namespace EntityFilter.Json

/-- The digit of a hexadecimal numeral, in lower case. -/
def hexDigit (n : Nat) : Char := (Nat.toDigits 16 n).getLastD '0'

def escapeChar (c : Char) : List Char :=
  if c = '"' then ['\\', '"']
  else if c = '\\' then ['\\', '\\']
  else if c = Char.ofNat 8 then ['\\', 'b']
  else if c = Char.ofNat 12 then ['\\', 'f']
  else if c = '\n' then ['\\', 'n']
  else if c = '\r' then ['\\', 'r']
  else if c = '\t' then ['\\', 't']
  else if c.toNat < 32 then
    ['\\', 'u', '0', '0', hexDigit (c.toNat / 16), hexDigit (c.toNat % 16)]
  else [c]

def writeString (s : String) : List Char :=
  '"' :: s.toList.flatMap escapeChar ++ ['"']

/-- A floating-point number; JSON has no text for what is not finite. -/
def writeFloat (x : Binary64) : String := FloatLayout.scientific.write x

def Number.write : Number → String
  | .integer i => toString i
  | .float x => writeFloat x

mutual

/-- The text of a value without any blanks. -/
def write : Json → List Char
  | null => ['n', 'u', 'l', 'l']
  | bool true => ['t', 'r', 'u', 'e']
  | bool false => ['f', 'a', 'l', 's', 'e']
  | number n => n.write.toList
  | string s => writeString s
  | array items => '[' :: writeItems items ++ [']']
  | object members => '\x7b' :: writeMembers members ++ ['\x7d']

/-- The items of an array, with commas between them. -/
def writeItems : List Json → List Char
  | [] => []
  | [v] => write v
  | v :: rest => write v ++ ',' :: writeItems rest

/-- The members of an object, with commas between them. -/
def writeMembers : List (String × Json) → List Char
  | [] => []
  | [(k, v)] => writeString k ++ ':' :: write v
  | (k, v) :: rest => writeString k ++ ':' :: write v ++ ',' :: writeMembers rest

end

def compact (j : Json) : String := String.ofList j.write

/-- The start of a line at depth `n`: two blanks a level. -/
def indent (n : Nat) : List Char := '\n' :: List.replicate (2 * n) ' '

mutual

/-- The text of a value at depth `n`, with a line for each item and member. -/
def writeLines (n : Nat) : Json → List Char
  | array (v :: rest) => '[' :: lineItems (n + 1) (v :: rest) ++ indent n ++ [']']
  | object ((k, v) :: rest) =>
    '\x7b' :: lineMembers (n + 1) ((k, v) :: rest) ++ indent n ++ ['\x7d']
  | null => write null
  | bool b => write (bool b)
  | number m => write (number m)
  | string s => write (string s)
  | array [] => write (array [])
  | object [] => write (object [])

/-- The items of an array, each on a line at depth `n`. -/
def lineItems (n : Nat) : List Json → List Char
  | [] => []
  | [v] => indent n ++ writeLines n v
  | v :: rest => indent n ++ writeLines n v ++ ',' :: lineItems n rest

/-- The members of an object, each on a line at depth `n`. -/
def lineMembers (n : Nat) : List (String × Json) → List Char
  | [] => []
  | [(k, v)] => indent n ++ writeString k ++ ':' :: ' ' :: writeLines n v
  | (k, v) :: rest =>
    indent n ++ writeString k ++ ':' :: ' ' :: writeLines n v ++ ',' :: lineMembers n rest

end

/-- The text of a value over several lines. -/
def pretty (j : Json) : String := String.ofList (j.writeLines 0)

end EntityFilter.Json
