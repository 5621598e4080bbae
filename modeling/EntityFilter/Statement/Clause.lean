import EntityFilter.Statement.Emission

/-!
Clauses: conditions whose parameters have neither names nor numbers yet.  A clause has a hole for
each use of a parameter, and says which value goes into which hole; a statement fills the holes with
its markers.
-/

namespace EntityFilter

/-- A piece of a clause: text, or a hole for the value of a given number, counted from zero. -/
inductive Piece where
  | text (s : String)
  | hole (n : Nat)
  deriving DecidableEq, Repr

/-- A condition with holes and the values for them. -/
structure Clause where
  pieces : List Piece := []
  bindings : List (Kind × Value) := []
  deriving DecidableEq, Inhabited

/-- The piece with `k` added to the number of its hole. -/
def Piece.shift (k : Nat) : Piece → Piece
  | text s => text s
  | hole n => hole (n + k)

/-- The text of a piece, given the text of each hole. -/
def Piece.fill (markers : List String) : Piece → String
  | text s => s
  | hole n => markers.getD n ""

namespace Clause

def text (s : String) : Clause := ⟨[.text s], []⟩

def value (kind : Kind) (v : Value) : Clause := ⟨[.hole 0], [(kind, v)]⟩

/-- One clause behind another; the values of the second are numbered after those of the first. -/
def append (a b : Clause) : Clause :=
  ⟨a.pieces ++ b.pieces.map (Piece.shift a.bindings.length), a.bindings ++ b.bindings⟩

instance : Append Clause := ⟨append⟩

def join (separator : String) : List Clause → Clause
  | [] => {}
  | [c] => c
  | c :: rest => c ++ text separator ++ join separator rest

def isEmpty (c : Clause) : Bool := c.pieces.isEmpty

/-- The text of a clause, given the text of each hole. -/
def fill (c : Clause) (markers : List String) : String :=
  (c.pieces.map (Piece.fill markers)).foldr (· ++ ·) ""

end Clause

/-- Ends an emission with a clause: its values are bound, and its holes filled with their
markers. -/
def Emission.commitClause (e : Emission) (c : Clause) : Statement :=
  let (markers, e) := e.bindAll c.bindings
  e.commit (c.fill markers)

end EntityFilter
