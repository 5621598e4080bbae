import EntityFilter.Text.Ranges

/-!
White space as Unicode defines it (the property `White_Space`), and its removal from the ends of a
text.
-/

namespace EntityFilter.Text

def blankRanges : Ranges :=
  [(0x09, 0x0D), (0x20, 0x20), (0x85, 0x85), (0xA0, 0xA0), (0x1680, 0x1680), (0x2000, 0x200A),
    (0x2028, 0x2029), (0x202F, 0x202F), (0x205F, 0x205F), (0x3000, 0x3000)]

def isBlank (c : Char) : Bool := blankRanges.covers c

/-- The text from its first character on that is not white space. -/
def trimStart (cs : List Char) : List Char := cs.dropWhile isBlank

/-- The text up to its last character that is not white space. -/
def trimEnd (cs : List Char) : List Char := (cs.reverse.dropWhile isBlank).reverse

/-- A text of white space only, or none at all. -/
def isAllBlank (s : String) : Bool := s.toList.all isBlank

end EntityFilter.Text
