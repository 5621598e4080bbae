import EntityFilter.Json.Literal

/-!
JSON texts as they are spelled, from left to right and up to the place where a text stops being
JSON.  A tree of nodes still has every member of an object, repeated keys included, so a reader can
say what it meets first: a value it does not want, or the place where the text breaks.
-/

namespace EntityFilter.Json

/-- A value as it is spelled.  `unreadable` is spelled properly and has no value: a number out of
range, or a string with half a surrogate pair.  `broken` is the place where the text stops being
JSON; nothing is known of what follows it. -/
inductive Node where
  | null
  | bool (b : Bool)
  | number (n : Number)
  | string (s : String)
  | array (items : List Node)
  | object (members : List (Node × Node))
  | unreadable
  | broken
  deriving Repr, Inhabited

/-- A text: its value, and whether anything but blanks follows the value. -/
structure Document where
  root : Node
  trailing : Bool
  deriving Repr, Inhabited

def isSpace (c : Char) : Bool := c = ' ' || c = '\n' || c = '\t' || c = '\r'

/-- A text without the white space at its front. -/
def skipSpace (cs : List Char) : List Char := cs.dropWhile isSpace

/-- What follows a given start of a text. -/
def afterStart? (start cs : List Char) : Option (List Char) :=
  if start.isPrefixOf cs then some (cs.drop start.length) else none

namespace Node

/-- The node of a string literal, and the text behind it; `cs` starts after the opening quote. -/
def scanString (cs : List Char) : Node × Option (List Char) :=
  match StringPart.readAll? cs with
  | some (parts, rest) =>
    match StringPart.assemble? parts with
    | some s => (string (String.ofList s), some rest)
    | none => (unreadable, some rest)
  | none => (broken, none)

/-- The node of a number literal, and the text behind it. -/
def scanNumber (cs : List Char) : Node × Option (List Char) :=
  match NumberLiteral.read? cs with
  | some (literal, rest) =>
    match literal.value? with
    | some n => (number n, some rest)
    | none => (unreadable, some rest)
  | none => (broken, none)

/-- The node of a word that stands for a value. -/
def scanWord (cs : List Char) : Node × Option (List Char) :=
  match afterStart? "null".toList cs with
  | some rest => (null, some rest)
  | none =>
    match afterStart? "true".toList cs with
    | some rest => (bool true, some rest)
    | none =>
      match afterStart? "false".toList cs with
      | some rest => (bool false, some rest)
      | none => (broken, none)

mutual

/-- The node at the front of a text, and the text behind it unless the node breaks.  Each level of
a value takes two steps of the fuel, and an item or member one more. -/
def scan : Nat → List Char → Node × Option (List Char)
  | 0, _ => (broken, none)
  | fuel + 1, cs =>
    match skipSpace cs with
    | [] => (broken, none)
    | '"' :: rest => scanString rest
    | '[' :: rest =>
      match skipSpace rest with
      | ']' :: rest => (array [], some rest)
      | rest =>
        let (items, rest) := scanItems fuel rest
        (array items, rest)
    | '\x7b' :: rest =>
      match skipSpace rest with
      | '\x7d' :: rest => (object [], some rest)
      | rest =>
        let (members, rest) := scanMembers fuel rest
        (object members, rest)
    | c :: rest =>
      if c = '-' ∨ c.isDigit then scanNumber (c :: rest) else scanWord (c :: rest)

/-- The items of an array from one item on. -/
def scanItems : Nat → List Char → List Node × Option (List Char)
  | 0, _ => ([broken], none)
  | fuel + 1, cs =>
    match scan fuel cs with
    | (item, none) => ([item], none)
    | (item, some rest) =>
      match skipSpace rest with
      | ',' :: rest =>
        let (items, rest) := scanItems fuel rest
        (item :: items, rest)
      | ']' :: rest => ([item], some rest)
      | _ => ([item, broken], none)

/-- The members of an object from one key on.  The text breaks at a key that is not a string. -/
def scanMembers : Nat → List Char → List (Node × Node) × Option (List Char)
  | 0, _ => ([(broken, broken)], none)
  | fuel + 1, cs =>
    match skipSpace cs with
    | '"' :: rest =>
      match scanString rest with
      | (key, none) => ([(key, broken)], none)
      | (key, some rest) =>
        match skipSpace rest with
        | ':' :: rest =>
          match scan fuel rest with
          | (value, none) => ([(key, value)], none)
          | (value, some rest) =>
            match skipSpace rest with
            | ',' :: rest =>
              let (members, rest) := scanMembers fuel rest
              ((key, value) :: members, rest)
            | '\x7d' :: rest => ([(key, value)], some rest)
            | _ => ([(key, value), (broken, broken)], none)
        | _ => ([(key, broken)], none)
    | _ => ([(broken, broken)], none)

end

mutual

/-- Whether the text breaks somewhere inside a node. -/
def isBroken : Node → Bool
  | broken => true
  | array items => anyBroken items
  | object members => anyMemberBroken members
  | _ => false

/-- Whether the text breaks inside one of several nodes. -/
def anyBroken : List Node → Bool
  | [] => false
  | item :: rest => item.isBroken || anyBroken rest

/-- Whether the text breaks inside one of several members. -/
def anyMemberBroken : List (Node × Node) → Bool
  | [] => false
  | (key, value) :: rest => key.isBroken || value.isBroken || anyMemberBroken rest

end

def asString? : Node → Option String
  | string s => some s
  | _ => none

mutual

/-- The value of a node.  There is none if the text breaks inside, if a number or string has no
value, or if arrays and objects nest deeper than `room`.  Of a repeated key the first place and the
last value are kept. -/
def value? (room : Nat) : Node → Option Json
  | null => some .null
  | bool b => some (.bool b)
  | number n => some (.number n)
  | string s => some (.string s)
  | array items => if room = 0 then none else (values? (room - 1) items).map .array
  | object members => if room = 0 then none else (memberValues? (room - 1) [] members).map .object
  | unreadable => none
  | broken => none

def values? (room : Nat) : List Node → Option (List Json)
  | [] => some []
  | item :: rest => do
    let v ← value? room item
    let vs ← values? room rest
    return v :: vs

/-- The values of members, set one after the other into those that are there. -/
def memberValues? (room : Nat) (known : List (String × Json)) :
    List (Node × Node) → Option (List (String × Json))
  | [] => some known
  | (key, value) :: rest => do
    let k ← key.asString?
    let v ← value? room value
    memberValues? room (setMember k v known) rest

end

end Node

/-- The greatest depth to which arrays and objects may nest in a text that is kept. -/
def maxDepth : Nat := 127

namespace Document

def ofText (text : String) : Document :=
  let cs := text.toList
  match Node.scan (2 * cs.length + 2) cs with
  | (root, some rest) => ⟨root, !(skipSpace rest).isEmpty⟩
  | (root, none) => ⟨root, true⟩

/-- The value of a document, if the whole text is JSON. -/
def value? (d : Document) : Option Json :=
  if d.trailing then none else d.root.value? maxDepth

end Document
end EntityFilter.Json
