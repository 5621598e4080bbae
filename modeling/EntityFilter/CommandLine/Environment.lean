import EntityFilter.Text.Alphanumeric
import EntityFilter.Text.Blank

/-!
Variables of the environment, and the file that adds to them.  A variable that is set stays as it
is, be it set from outside or by an earlier line; the first line that makes no sense ends the file.
A quoted value may go over several lines, and what follows a blank and a number sign is a comment.
-/

namespace EntityFilter

abbrev Environment := List (String × String)

namespace Environment

/-- The value of a variable, which is empty if it is not set. -/
def expand (e : Environment) (name : List Char) : List Char :=
  ((e.lookup (String.ofList name)).getD "").toList

/-- Whether a variable can have a value, which is any text without the null character. -/
def canHold (value : String) : Bool := !value.toList.contains (Char.ofNat 0)

/-- Sets a variable that is not set, if it can have the value. -/
def add? (e : Environment) (name value : String) : Option Environment :=
  if (e.lookup name).isSome then some e
  else if canHold value then some (e ++ [(name, value)])
  else none

/-- Where a line stands with its quotes while its end is looked for. -/
inductive Quotes where
  | none
  | blank
  | escape
  | weak
  | weakEscape
  | strong
  | strongEscape
  deriving DecidableEq, Repr

/-- What a character outside of quotes leads to. -/
def Quotes.enter (c : Char) : Quotes :=
  if c = '\\' then escape
  else if c = '"' then weak
  else if c = '\'' then strong
  else none

/-- What a character leads to, when it does not start a comment. -/
def Quotes.step (q : Quotes) (c : Char) : Quotes :=
  match q with
  | none => if Text.isBlank c ∧ c ≠ '\n' ∧ c ≠ '\r' then blank else enter c
  | blank => enter c
  | escape => none
  | weak => if c = '\\' then weakEscape else if c = '"' then none else weak
  | weakEscape => weak
  | strong => if c = '\\' then strongEscape else if c = '\'' then none else strong
  | strongEscape => strong

/-- The state behind a line, or the part of the line before its comment. -/
def Quotes.scan (q : Quotes) : List Char → Quotes ⊕ List Char
  | [] => .inl q
  | c :: rest =>
    if q = blank ∧ c = '#' then .inr []
    else
      match (q.step c).scan rest with
      | .inl q => .inl q
      | .inr before => .inr (c :: before)

/-- The lines of a text, each with its line end. -/
def splitLines : List Char → List (List Char)
  | [] => []
  | c :: rest =>
    if c = '\n' then [c] :: splitLines rest
    else
      match splitLines rest with
      | [] => [[c]]
      | line :: lines => (c :: line) :: lines

def dropLineEnd (line : List Char) : List Char :=
  match line.reverse with
  | '\n' :: '\r' :: rest => rest.reverse
  | '\n' :: rest => rest.reverse
  | _ => line

/-- Lines joined while a quote or an escape is open at their end; `sofar` is the start of the line
that goes on.  Comments are left out, and an open end of the last line leaves it out. -/
def joinLines (sofar : List Char) (q : Quotes) : List (List Char) → List (List Char)
  | [] => []
  | line :: rest =>
    let whole := sofar ++ line
    if (Text.trimStart whole).head? = some '#' then joinLines [] .none rest
    else
      match q.scan line with
      | .inr before => (sofar ++ before) :: joinLines [] .none rest
      | .inl .none => dropLineEnd whole :: joinLines [] .none rest
      | .inl q => joinLines whole q rest

/-- Where a value stands: outside of quotes or inside, behind a backslash, in the name of a
variable, or behind its end.  `weak` tells that double quotes are open. -/
inductive Place where
  | plain (weak : Bool)
  | escaped (weak : Bool)
  | strong
  | name (weak : Bool) (chars : List Char)
  | braced (weak : Bool) (chars : List Char)
  | ending
  deriving DecidableEq, Repr

def ofEscape? (c : Char) : Option Char :=
  if c = '\\' ∨ c = '\'' ∨ c = '"' ∨ c = '$' ∨ c = ' ' then some c
  else if c = 'n' then some '\n'
  else none

/-- The place behind a character that is not in a name, and the characters that it adds. -/
def plainStep (weak : Bool) (c : Char) : Place × List Char :=
  if c = '$' then (.name weak [], [])
  else if c = '\\' then (.escaped weak, [])
  else if weak then (if c = '"' then (.plain false, []) else (.plain true, [c]))
  else if c = '\'' then (.strong, [])
  else if c = '"' then (.plain true, [])
  else if c = ' ' ∨ c = '\t' then (.ending, [])
  else (.plain false, [c])

/-- The value that characters spell from a place on.  A name without braces has only
letters and numbers, and the character that ends it stands for itself. -/
def readValue? (e : Environment) : Place → List Char → Option (List Char)
  | .plain weak, [] => if weak then none else some []
  | .escaped weak, [] => if weak then none else some []
  | .name weak chars, [] => if weak then none else some (e.expand chars)
  | .strong, [] => none
  | .braced _ _, [] => none
  | .ending, [] => some []
  | .plain weak, c :: rest =>
    let (place, added) := plainStep weak c
    (readValue? e place rest).map (added ++ ·)
  | .escaped weak, c :: rest => do
    let c ← ofEscape? c
    let value ← readValue? e (.plain weak) rest
    return c :: value
  | .strong, c :: rest =>
    if c = '\'' then readValue? e (.plain false) rest
    else (readValue? e .strong rest).map (c :: ·)
  | .name weak chars, c :: rest =>
    if Text.isAlphanumeric c then readValue? e (.name weak (chars ++ [c])) rest
    else if c = '\x7b' ∧ chars = [] then readValue? e (.braced weak []) rest
    else if c = '$' then (readValue? e (.name weak []) rest).map (e.expand chars ++ ·)
    else (readValue? e (.plain weak) rest).map (e.expand chars ++ c :: ·)
  | .braced weak chars, c :: rest =>
    if c = '\x7d' then (readValue? e (.plain weak) rest).map (e.expand chars ++ ·)
    else readValue? e (.braced weak (chars ++ [c])) rest
  | .ending, c :: rest =>
    if c = ' ' ∨ c = '\t' then readValue? e .ending rest
    else if c = '#' then some []
    else none

/-- A character of the name of a variable that a line sets. -/
def isKeyChar (c : Char) : Bool := c.isAlphanum || c == '_' || c == '.'

/-- The variable at the front of a line, and what follows it. -/
def readKey? (cs : List Char) : Option (List Char × List Char) :=
  match cs with
  | [] => none
  | c :: _ =>
    if c.isAlpha ∨ c = '_' then
      let key := cs.takeWhile isKeyChar
      some (key, Text.trimStart (cs.drop key.length))
    else none

def afterEquals? : List Char → Option (List Char)
  | '=' :: rest => some (Text.trimStart rest)
  | _ => none

/-- The variable of a line and the spelling of its value.  The word `export` may stand in front. -/
def readAssignment? (cs : List Char) : Option (List Char × List Char) := do
  let (key, rest) ← readKey? cs
  match afterEquals? rest with
  | some value => return (key, value)
  | none =>
    if key = ['e', 'x', 'p', 'o', 'r', 't'] then
      let (key, rest) ← readKey? rest
      return (key, ← afterEquals? rest)
    else none

/-- The variable that a line spells and its value, if the line makes sense.  A line that is empty or
a comment spells none. -/
def readLine? (e : Environment) (line : List Char) : Option (Option (String × String)) :=
  let cs := Text.trimStart (Text.trimEnd line)
  if cs.isEmpty ∨ cs.head? = some '#' then some none
  else do
    let (key, spelling) ← readAssignment? cs
    let value ←
      if spelling.isEmpty ∨ spelling.head? = some '#' then some []
      else readValue? e (.plain false) spelling
    return some (String.ofList key, String.ofList value)

/-- The environment behind several lines, up to the first that makes no sense.  There is none if a
variable is to be set that cannot have its value. -/
def readLines? (e : Environment) : List (List Char) → Option Environment
  | [] => some e
  | line :: rest =>
    match e.readLine? line with
    | none => some e
    | some none => readLines? e rest
    | some (some (name, value)) => do
      let e ← e.add? name value
      readLines? e rest

/-- The runs of characters of a class in a text. -/
def runs (isPart : Char → Bool) (cs : List Char) : List String :=
  ((cs.splitBy fun a b => isPart a == isPart b).filter fun run => run.any isPart).map String.ofList

/-- The texts that start behind an opening brace and end before a closing one. -/
def bracedTexts : List Char → List String
  | [] => []
  | c :: rest =>
    if c = '\x7b' then String.ofList (rest.takeWhile (· ≠ '\x7d')) :: bracedTexts rest
    else bracedTexts rest

/-- The names of variables that a file may use or set. -/
def mentioned (text : String) : List String :=
  let cs := text.toList
  runs Text.isAlphanumeric cs ++ bracedTexts cs ++ runs isKeyChar cs

/-- The environment with the variables of a file, if each of them can have its value. -/
def withFile? (e : Environment) (text : String) : Option Environment :=
  let cs := text.toList
  let cs := if cs.head? = some (Char.ofNat 0xFEFF) then cs.drop 1 else cs
  e.readLines? (joinLines [] .none (splitLines cs))

end Environment
end EntityFilter
