import EntityFilter.Filter.Criterion
import Mathlib.Order.BoundedOrder.Lattice

/-!
Conditions as formulas over atoms.  A formula has a truth value in every bounded lattice: in that of
the two booleans, and in the chain of three values whose middle one is unknown.
-/

namespace EntityFilter.Sql

inductive Relation where
  | equal
  | unequal
  | order (op : Comparison)
  deriving DecidableEq, Repr

/-- A condition without parts, in which `ω` stands for parameters. -/
inductive Atom (ω : Type) where
  | isNull (column : String)
  | isNotNull (column : String)
  | compare (column : String) (r : Relation) (operand : ω)
  | compareTruth (column : String) (r : Relation) (b : Bool)
  | between (column : String) (low high : ω)
  | among (column : String) (members : List ω)
  | like (column : String) (pattern : ω) (escape : Option String)
  | freeText (column : String) (words : ω)
  deriving DecidableEq, Repr

inductive Formula (ω : Type) where
  | atom (a : Atom ω)
  | and (left right : Formula ω)
  | or (left right : Formula ω)
  deriving DecidableEq, Repr

section Truth

variable {α ω : Type} [Lattice α]

namespace Formula

/-- The truth of a condition, given that of the atoms. -/
def eval (v : Atom ω → α) : Formula ω → α
  | atom a => v a
  | and a b => a.eval v ⊓ b.eval v
  | or a b => a.eval v ⊔ b.eval v

@[simp] theorem eval_comp_atom (v : Atom ω → α) : eval v ∘ atom = v := rfl

/-- Conditions that must all hold, grouped to the left. -/
def all (a : Formula ω) (rest : List (Formula ω)) : Formula ω := rest.foldl and a

/-- Conditions of which any must hold, grouped to the left. -/
def any (a : Formula ω) (rest : List (Formula ω)) : Formula ω := rest.foldl or a

end Formula

variable [BoundedOrder α]

/-- The truth of a list of conditions that must all hold. -/
def allOf (xs : List α) : α := xs.foldr (· ⊓ ·) ⊤

/-- The truth of a list of conditions of which any must hold. -/
def anyOf (xs : List α) : α := xs.foldr (· ⊔ ·) ⊥

@[simp] theorem allOf_nil : allOf ([] : List α) = ⊤ := rfl

@[simp] theorem allOf_cons (x : α) (xs : List α) : allOf (x :: xs) = x ⊓ allOf xs := rfl

namespace Formula

theorem eval_all (v : Atom ω → α) (a : Formula ω) (rest : List (Formula ω)) :
    (a.all rest).eval v = allOf ((a :: rest).map (eval v)) := by
  induction rest generalizing a with
  | nil => simp [all]
  | cons b rest ih =>
    rw [all, List.foldl_cons, ← all, ih]
    simp [eval, inf_assoc]

theorem eval_any (v : Atom ω → α) (a : Formula ω) (rest : List (Formula ω)) :
    (a.any rest).eval v = anyOf ((a :: rest).map (eval v)) := by
  induction rest generalizing a with
  | nil => simp [any, anyOf]
  | cons b rest ih =>
    rw [any, List.foldl_cons, ← any, ih]
    simp [eval, anyOf, sup_assoc]

end Formula

end Truth
end EntityFilter.Sql
