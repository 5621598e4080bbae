import EntityFilter.Proofs.Sql.Formula
import EntityFilter.Proofs.Sql.Lexer

/-!
Reading the text of a condition back into a formula.  AND binds tighter than OR, and parentheses
bind tightest.  The tokens of an atom go on until they are a whole atom and a connective follows, so
the AND of a range is part of its atom.
-/

namespace EntityFilter.Sql

def Relation.ofSymbol? : String → Option Relation
  | "=" => some .equal
  | "<>" => some .unequal
  | ">" => some (.order .greater)
  | ">=" => some (.order .greaterOrEqual)
  | "<" => some (.order .less)
  | "<=" => some (.order .lessOrEqual)
  | _ => none

def truth? : String → Option Bool
  | "1" | "true" | "TRUE" => some true
  | "0" | "false" | "FALSE" => some false
  | _ => none

/-- The escape character of patterns where none is named. -/
def implicitEscape? : Dialect → Option String
  | .clickhouse => some "\\"
  | _ => none

/-- The markers of a list, which is read up to its parenthesis. -/
def members? : List Token → Option (List String)
  | [.marker m, .closing] => some [m]
  | .marker m :: .comma :: ts => (members? ts).map (m :: ·)
  | _ => none

def Atom.ofTokens? (d : Dialect) : List Token → Option (Atom String)
  | .name c :: ts =>
    match ts with
    | [.word "IS", .word "NULL"] => some (.isNull c)
    | [.word "IS", .word "NOT", .word "NULL"] => some (.isNotNull c)
    | [.symbol s, .marker m] => (Relation.ofSymbol? s).map fun r => .compare c r m
    | [.symbol s, .word w] =>
      (Relation.ofSymbol? s).bind fun r => (truth? w).map fun b => .compareTruth c r b
    | [.word "BETWEEN", .marker low, .word "AND", .marker high] => some (.between c low high)
    | .word "IN" :: .opening :: ts => (members? ts).map (.among c)
    | [.word "LIKE", .marker m] => some (.like c m (implicitEscape? d))
    | [.word "LIKE", .marker m, .word "ESCAPE", .literal s] => some (.like c m (some s))
    | _ => none
  | [.word "FREETEXT", .opening, .name c, .comma, .marker m, .closing] => some (.freeText c m)
  | [.word "to_tsvector", .opening, .name c, .closing, .symbol "@@", .word "plainto_tsquery",
      .opening, .marker m, .closing] => some (.freeText c m)
  | _ => none

inductive Connective where
  | and
  | or
  | closing
  deriving DecidableEq, Repr

/-- The connective that a token is, outside of atoms. -/
def Token.connective? : Token → Option Connective
  | .word "AND" => some .and
  | .word "OR" => some .or
  | .closing => some .closing
  | _ => none

/-- What has been read since a parenthesis: the alternatives before the present one, and the
operands of the present one. -/
structure Frame where
  disjunct? : Option (Formula String) := none
  conjunct? : Option (Formula String) := none

namespace Frame

def conjoin (f : Frame) (φ : Formula String) : Formula String :=
  match f.conjunct? with
  | none => φ
  | some ψ => .and ψ φ

/-- All alternatives, with one more operand in the present one. -/
def close (f : Frame) (φ : Formula String) : Formula String :=
  match f.disjunct? with
  | none => f.conjoin φ
  | some ψ => .or ψ (f.conjoin φ)

end Frame

/-- Where a reader is: before an operand, inside an atom, or behind a parenthesis that ends an
operand. -/
inductive Place where
  | before
  | within (ts : List Token)
  | behind (φ : Formula String)

/-- The operand that ends at a place, if one may. -/
def Place.operand? (d : Dialect) : Place → Option (Formula String)
  | before => none
  | within ts => (Atom.ofTokens? d ts).map .atom
  | behind φ => some φ

/-- A reader with the frames of the parentheses around it. -/
structure Reader where
  outer : List Frame := []
  frame : Frame := {}
  place : Place := .before

namespace Reader

def connect (r : Reader) (φ : Formula String) : Connective → Option Reader
  | .and => some { r with
      frame := { r.frame with conjunct? := some (r.frame.conjoin φ) }, place := .before }
  | .or => some { r with frame := { disjunct? := some (r.frame.close φ) }, place := .before }
  | .closing =>
    match r.outer with
    | [] => none
    | f :: outer => some ⟨outer, f, .behind (r.frame.close φ)⟩

def shift (r : Reader) (t : Token) : Option Reader :=
  match r.place with
  | .before =>
    if t = .opening then some { outer := r.frame :: r.outer }
    else some { r with place := .within [t] }
  | .within ts => some { r with place := .within (ts ++ [t]) }
  | .behind _ => none

def step (d : Dialect) (r : Reader) (t : Token) : Option Reader :=
  -- A connective inside an atom is part of it: what stands before is no operand yet.
  match t.connective?, r.place.operand? d with
  | some k, some φ => r.connect φ k
  | _, _ => r.shift t

def run (d : Dialect) (r : Reader) (ts : List Token) : Option Reader := ts.foldlM (step d) r

/-- The formula that has been read, if no parenthesis is open. -/
def finish? (d : Dialect) (r : Reader) : Option (Formula String) :=
  match r.outer with
  | [] => (r.place.operand? d).map r.frame.close
  | _ :: _ => none

end Reader

/-- The formula of the text of a condition. -/
def read (d : Dialect) (text : String) : Option (Formula String) := do
  let r ← Reader.run d {} (← lex d text)
  r.finish? d

example : read .sqlite "(\"a\" BETWEEN ?1 AND ?2 OR \"b) AND\" IS NULL) AND \"c\" = ?3" =
    some (.and (.or (.atom (.between "a" "?1" "?2")) (.atom (.isNull "b) AND")))
      (.atom (.compare "c" .equal "?3"))) := by
  rfl

end EntityFilter.Sql
