/-!
Patterns of the operator LIKE that match a given text literally: in them a backslash makes the
character behind it stand for itself.
-/

namespace EntityFilter

/-- What a text is compared with: it contains, starts with or ends with another one. -/
inductive Like where
  | contains (s : String)
  | startsWith (s : String)
  | endsWith (s : String)
  deriving DecidableEq, Repr

namespace Like

/-- The characters with a meaning in patterns: any characters, any one character, the escape. -/
def isSpecial (c : Char) : Bool := c == '%' || c == '_' || c == '\\'

/-- A character that stands for itself in a pattern. -/
def escapeChar (c : Char) : List Char := if isSpecial c then ['\\', c] else [c]

def escape (s : String) : String := String.ofList (s.toList.flatMap escapeChar)

def pattern : Like → String
  | contains s => "%" ++ escape s ++ "%"
  | startsWith s => escape s ++ "%"
  | endsWith s => "%" ++ escape s

end Like
end EntityFilter
