import EntityFilter.Proofs.Digits
import EntityFilter.Value.Json
import Mathlib.Algebra.Order.Field.Rat

/-!
The spelling of decimals and the rational numbers that they spell.
-/

namespace EntityFilter

open Text

/-- A magnitude with a sign. -/
def signed (negative : Bool) (q : ℚ) : ℚ := if negative then -q else q

namespace Value

/-- The number that digits spell, with a point in them or without one. -/
def unsignedDecimal (cs : List Char) : ℚ :=
  let whole := cs.takeWhile (· ≠ '.')
  let fraction := cs.drop (whole.length + 1)
  digitsValue (whole ++ fraction) / 10 ^ fraction.length

/-- The number that a decimal spells. -/
def decimalNumber (s : String) : ℚ :=
  match s.toList with
  | '-' :: cs => -unsignedDecimal cs
  | cs => unsignedDecimal cs

/-- The text is the spelling of a decimal, and spells this number. -/
def Denotes (s : String) (q : ℚ) : Prop := isDecimalLiteral s = true ∧ decimalNumber s = q

/-- The text is the spelling of a decimal without a sign, and spells this number. -/
def Spells (cs : List Char) (q : ℚ) : Prop := isUnsignedDecimal cs = true ∧ unsignedDecimal cs = q

/-- Digits up to a point are taken as they are. -/
theorem takeWhile_digits {whole : List Char} (digits : ∀ c ∈ whole, c.isDigit = true)
    (rest : List Char) :
    (whole ++ rest).takeWhile (· ≠ '.') = whole ++ rest.takeWhile (· ≠ '.') := by
  refine List.takeWhile_append_of_pos fun c member => decide_eq_true ?_
  rintro rfl
  cases digits _ member

section Digits

variable {whole : List Char} (nonempty : whole ≠ []) (digits : ∀ c ∈ whole, c.isDigit = true)

include nonempty digits

theorem spells_whole : Spells whole (digitsValue whole) := by
  have before := takeWhile_digits digits []
  rw [List.append_nil, List.takeWhile_nil, List.append_nil] at before
  have behind : whole.drop (whole.length + 1) = [] := List.drop_eq_nil_of_le (Nat.le_succ _)
  constructor
  · simp only [isUnsignedDecimal, before, List.drop_length]
    simpa [nonempty] using digits
  · rw [unsignedDecimal, before, behind, List.append_nil, List.length_nil, pow_zero, div_one]

theorem spells_point {fraction : List Char} (nonempty' : fraction ≠ [])
    (digits' : ∀ c ∈ fraction, c.isDigit = true) {q : ℚ}
    (value : (digitsValue (whole ++ fraction) : ℚ) / 10 ^ fraction.length = q) :
    Spells (whole ++ '.' :: fraction) q := by
  have before := takeWhile_digits digits ('.' :: fraction)
  rw [List.takeWhile_cons_of_neg (by decide), List.append_nil] at before
  have behind : (whole ++ '.' :: fraction).drop (whole.length + 1) = fraction := by
    rw [← List.drop_drop, List.drop_left, List.drop_one, List.tail_cons]
  constructor
  · simp only [isUnsignedDecimal, before, List.drop_left]
    simpa [nonempty, nonempty'] using ⟨digits, digits'⟩
  · rw [unsignedDecimal, before, behind, value]

end Digits

/-- The spelling of a decimal without a sign has digits and points only. -/
theorem of_mem_unsigned {cs : List Char} (h : isUnsignedDecimal cs = true) {c : Char}
    (member : c ∈ cs) : c = '.' ∨ c.isDigit = true := by
  simp only [isUnsignedDecimal, Bool.and_eq_true, List.all_eq_true] at h
  obtain ⟨⟨-, whole⟩, rest⟩ := h
  -- What follows the digits is nothing, or a point and more digits.
  have parts := List.prefix_iff_eq_append.mp (cs.takeWhile_prefix (· ≠ '.'))
  have point := cs.head?_dropWhile_not (· ≠ '.')
  rw [List.append_cancel_left ((cs.takeWhile_append_dropWhile (p := (· ≠ '.'))).trans parts.symm)]
    at point
  rw [← parts, List.mem_append] at member
  rcases member with inWhole | inRest
  · exact .inr (whole c inWhole)
  · revert rest point inRest
    cases cs.drop (cs.takeWhile (· ≠ '.')).length with
    | nil => simp
    | cons d fraction =>
      intro rest point inRest
      simp only [Bool.and_eq_true, List.all_eq_true] at rest
      rcases List.mem_cons.mp inRest with rfl | inFraction
      · exact .inl (by simpa using point)
      · exact .inr (rest.2 c inFraction)

/-- The spelling of a decimal has digits, points and signs only. -/
theorem of_mem_literal {s : String} (h : isDecimalLiteral s = true) {c : Char}
    (member : c ∈ s.toList) : c = '-' ∨ c = '.' ∨ c.isDigit = true := by
  rw [isDecimalLiteral] at h
  split at h
  · rename_i cs spelled
    rw [spelled] at member
    rcases List.mem_cons.mp member with rfl | inRest
    · exact .inl rfl
    · exact .inr (of_mem_unsigned h inRest)
  · exact .inr (of_mem_unsigned h member)

/-- A sign in front of a spelling is the sign of the number. -/
theorem Spells.denotes {cs : List Char} {q : ℚ} (h : Spells cs q) {s : String} {negative : Bool}
    (spelled : s.toList = if negative then '-' :: cs else cs) : Denotes s (signed negative q) := by
  obtain ⟨literal, rfl⟩ := h
  cases negative with
  | true =>
    rw [if_pos rfl] at spelled
    rw [Denotes, isDecimalLiteral, decimalNumber, spelled]
    exact ⟨literal, rfl⟩
  | false =>
    have unsigned : ∀ rest, cs ≠ '-' :: rest := by
      rintro rest rfl
      rcases of_mem_unsigned literal List.mem_cons_self with point | digit
      · cases point
      · cases digit
    rw [if_neg Bool.false_ne_true] at spelled
    rw [Denotes, isDecimalLiteral, decimalNumber, spelled]
    constructor
    · split
      · exact absurd rfl (unsigned _)
      · exact literal
    · split
      · exact absurd rfl (unsigned _)
      · rfl

end Value
end EntityFilter
