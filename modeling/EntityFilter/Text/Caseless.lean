/-!
Lower case as far as it matters for matching names made of ASCII letters.
-/

namespace EntityFilter.Text

/-- The Kelvin sign, whose lower case is the letter `k`. -/
def kelvinSign : Char := Char.ofNat 0x212A

/-- The lower case of a character, where that is a single ASCII letter; any other character stays.
The Kelvin sign is the only character beyond ASCII with such a lower case. -/
def lowerChar (c : Char) : Char := if c = kelvinSign then 'k' else c.toLower

/-- A text with every letter of ASCII, and the Kelvin sign, in lower case.  It equals a name of
ASCII letters in lower case exactly when its full lower case does. -/
def lower (s : String) : String := String.ofList (s.toList.map lowerChar)

end EntityFilter.Text
