/-!
Quoted identifiers: a name between two quotes, with every closing quote inside the name written
twice.
-/

namespace EntityFilter

structure Quoting where
  opening : Char
  closing : Char
  deriving DecidableEq, Repr

namespace Quoting

def writeChar (q : Quoting) (c : Char) : List Char := if c = q.closing then [c, c] else [c]

def writeChars (q : Quoting) (name : List Char) : List Char :=
  q.opening :: name.flatMap q.writeChar ++ [q.closing]

def write (q : Quoting) (name : String) : String := String.ofList (q.writeChars name.toList)

end Quoting
end EntityFilter
