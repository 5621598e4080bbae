import EntityFilter.Proofs.Json.Literal
import EntityFilter.Text.Blank
import Mathlib.Algebra.Ring.Nat

/-!
Numbers written in digits read back, whether the reader takes as many digits as there are or a fixed
number of them.
-/

namespace EntityFilter.Text

theorem digitsValue_toDigits (n : Nat) : digitsValue (Nat.toDigits 10 n) = n :=
  Nat.ofDigitChars_ten_toDigits

theorem digitsValue_append (ds ds' : List Char) :
    digitsValue (ds ++ ds') = 10 ^ ds'.length * digitsValue ds + digitsValue ds' := by
  have whole : digitsValue (ds ++ ds') = Nat.ofDigitChars 10 ds' (digitsValue ds) :=
    Nat.ofDigitChars_append 0
  rw [whole, Nat.ofDigitChars_eq_ofDigitChars_zero]
  rfl

/-- More digits do not make a number smaller. -/
theorem le_ofDigitChars (ds : List Char) (n : Nat) : n ≤ Nat.ofDigitChars 10 ds n := by
  rw [Nat.ofDigitChars_eq_ofDigitChars_zero]
  have power : 0 < 10 ^ ds.length := Nat.pow_pos (by decide)
  exact (Nat.le_mul_of_pos_left n power).trans (Nat.le_add_right _ _)

theorem digitsValue_replicate (n : Nat) : digitsValue (List.replicate n '0') = 0 := by
  have zeros : digitsValue (List.replicate n '0') = 10 ^ n * 0 :=
    Nat.ofDigitChars_replicate_zero
  rw [zeros, Nat.mul_zero]

theorem digitsValue_padded (width n : Nat) : digitsValue (padded width n) = n := by
  rw [padded, digitsValue_append, digitsValue_replicate, digitsValue_toDigits, Nat.mul_zero,
    Nat.zero_add]

/-- Digits spell a number with no more digits than there are. -/
theorem digitsValue_lt {ds : List Char} (digits : ∀ c ∈ ds, c.isDigit) :
    digitsValue ds < 10 ^ ds.length := by
  induction ds with
  | nil => exact Nat.one_pos
  | cons c ds ih =>
    have others := ih fun d hd => digits d (List.mem_cons_of_mem c hd)
    have high : c.toNat ≤ 57 := (Char.isDigit_iff_toNat.mp (digits c List.mem_cons_self)).2
    have zero : '0'.toNat = 48 := rfl
    have first : digitsValue [c] ≤ 9 := by
      simp only [digitsValue, List.foldl_cons, List.foldl_nil, digitValue]
      omega
    have whole := digitsValue_append [c] ds
    have scaled := Nat.mul_le_mul_left (10 ^ ds.length) first
    rw [List.length_cons, Nat.pow_succ]
    rw [List.singleton_append] at whole
    omega

theorem isDigit_of_mem_toDigits {n : Nat} {c : Char} (h : c ∈ Nat.toDigits 10 n) :
    c.isDigit = true :=
  Nat.isDigit_of_mem_toDigits (by decide) (by decide) h

theorem isDigit_of_mem_padded {width n : Nat} {c : Char} (h : c ∈ padded width n) :
    c.isDigit = true := by
  rcases List.mem_append.mp h with zero | digit
  · rw [List.eq_of_mem_replicate zero]
    rfl
  · exact isDigit_of_mem_toDigits digit

theorem padded_ne_nil (width n : Nat) : padded width n ≠ [] :=
  List.append_ne_nil_of_right_ne_nil _ Nat.toDigits_ne_nil

theorem length_padded {width n : Nat} (positive : 0 < width) (fits : n < 10 ^ width) :
    (padded width n).length = width := by
  have short := (Nat.length_toDigits_le_iff (by decide) positive).mpr fits
  rw [padded, List.length_append, List.length_replicate]
  omega

/-- A reader with a limit takes just as many digits, even if more follow. -/
theorem spanDigits_limit {ds : List Char} (digits : ∀ c ∈ ds, c.isDigit) (rest : List Char) :
    spanDigits (some ds.length) (ds ++ rest) = (ds, rest) := by
  simp [spanDigits, List.takeWhile_append_of_pos digits]

/-- The head of a text of digits is a digit. -/
theorem exists_padded_eq_cons (width n : Nat) :
    ∃ c cs, padded width n = c :: cs ∧ c.isDigit = true := by
  obtain ⟨c, cs, spelled⟩ := List.exists_cons_of_ne_nil (padded_ne_nil width n)
  exact ⟨c, cs, spelled, isDigit_of_mem_padded (spelled ▸ List.mem_cons_self)⟩

section Readers

variable {width n : Nat} (positive : 0 < width) (fits : n < 10 ^ width) (rest : List Char)

include positive fits

theorem spanDigits_padded :
    spanDigits (some width) (padded width n ++ rest) = (padded width n, rest) := by
  have digits : ∀ c ∈ padded width n, c.isDigit := fun c => isDigit_of_mem_padded
  have taken := spanDigits_limit digits rest
  rwa [length_padded positive fits] at taken

theorem readFixed?_padded : readFixed? width (padded width n ++ rest) = some (n, rest) := by
  simp [readFixed?, spanDigits_padded positive fits, length_padded positive fits,
    digitsValue_padded]

theorem readNumber?_padded :
    readNumber? (some width) (padded width n ++ rest) = some (n, rest) := by
  simp [readNumber?, spanDigits_padded positive fits, padded_ne_nil, digitsValue_padded]

end Readers

theorem lt_of_readFixed?_eq_some {width n : Nat} {cs rest : List Char}
    (h : readFixed? width cs = some (n, rest)) : n < 10 ^ width := by
  obtain ⟨length, rfl, -⟩ : (spanDigits (some width) cs).1.length = width ∧
      digitsValue (spanDigits (some width) cs).1 = n ∧ (spanDigits (some width) cs).2 = rest := by
    simpa [readFixed?] using h
  have digits : ∀ c ∈ (spanDigits (some width) cs).1, c.isDigit :=
    fun c member => List.mem_takeWhile_imp (List.mem_of_mem_take member)
  exact (digitsValue_lt digits).trans_eq (congrArg (10 ^ ·) length)

/-- A reader without a limit takes all digits that there are. -/
theorem readNumber?_none_padded (width n : Nat) {rest : List Char}
    (ends : Json.Ends (·.isDigit = false) rest) :
    readNumber? none (padded width n ++ rest) = some (n, rest) := by
  have digits : ∀ c ∈ padded width n, c.isDigit := fun c => isDigit_of_mem_padded
  have taken := Json.spanDigits_append digits ends
  simp [readNumber?, taken, padded_ne_nil, digitsValue_padded]

/-- Digits are no white space. -/
theorem isBlank_of_isDigit {c : Char} (h : c.isDigit = true) : isBlank c = false := by
  obtain ⟨low, high⟩ : 48 ≤ c.toNat ∧ c.toNat ≤ 57 := Char.isDigit_iff_toNat.mp h
  simp only [isBlank, blankRanges, Ranges.covers, List.any_cons, List.any_nil, Bool.or_false,
    Bool.or_eq_false_iff, Bool.and_eq_false_iff, decide_eq_false_iff_not]
  omega

theorem trimStart_cons {c : Char} (h : isBlank c = false) (cs : List Char) :
    trimStart (c :: cs) = c :: cs := by
  simp [trimStart, h]

theorem trimStart_padded (width n : Nat) (rest : List Char) :
    trimStart (padded width n ++ rest) = padded width n ++ rest := by
  obtain ⟨c, cs, spelled, digit⟩ := exists_padded_eq_cons width n
  rw [spelled, List.cons_append, trimStart_cons (isBlank_of_isDigit digit)]

end EntityFilter.Text
