import EntityFilter.Number.Shortest
import Mathlib.Algebra.Order.Field.Power
import Mathlib.Algebra.Order.Field.Rat
import Mathlib.Tactic.FieldSimp
import Mathlib.Tactic.Linarith
import Mathlib.Tactic.NormNum.Pow
import Mathlib.Tactic.Positivity
import Mathlib.Tactic.Ring

/-!
The rounding of a quotient.  Quotients of natural numbers are read as rationals, and the number that
a quotient is rounded to has the quotient in its interval.
-/

namespace EntityFilter

/-- A pair of natural numbers as the quotient that it stands for. -/
def ratio (q : Nat × Nat) : ℚ := q.1 / q.2

theorem one_le_ratio {q : Nat × Nat} (positive : 0 < q.2) : 1 ≤ ratio q ↔ q.2 ≤ q.1 := by
  rw [ratio, one_le_div (by exact_mod_cast positive), Nat.cast_le]

theorem pos_of_ratio_pos {q : Nat × Nat} (h : 0 < ratio q) : 0 < q.1 := by
  refine Nat.pos_of_ne_zero fun zero => ?_
  rw [ratio, zero, Nat.cast_zero, zero_div] at h
  exact lt_irrefl _ h

/-- Multiples of a unit that are less than a unit apart are the same. -/
theorem eq_of_near {a b : Nat} {unit : ℚ} (unit_pos : 0 < unit)
    (near : |(a : ℚ) * unit - b * unit| < unit) : a = b := by
  rw [← sub_mul, abs_mul, abs_of_pos unit_pos, mul_lt_iff_lt_one_left unit_pos] at near
  have near : |(a : Int) - b| < 1 := by exact_mod_cast near
  exact Int.natCast_inj.mp (sub_eq_zero.mp (Int.abs_lt_one_iff.mp near))

/-- The rationals that are read as `m * 2 ^ e`: those around it as far as the halves of the gaps to
its neighbours, with both ends when the mantissa is even. -/
structure Reads (m : Nat) (e : Int) (v : ℚ) : Prop where
  lower : (4 * (m : ℚ) - (ShortDecimal.gaps m e).1) * 2 ^ (e - 2) ≤ v
  upper : v ≤ (4 * (m : ℚ) + (ShortDecimal.gaps m e).2) * 2 ^ (e - 2)
  inner : m % 2 = 1 → (4 * (m : ℚ) - (ShortDecimal.gaps m e).1) * 2 ^ (e - 2) < v ∧
    v < (4 * (m : ℚ) + (ShortDecimal.gaps m e).2) * 2 ^ (e - 2)

theorem ShortDecimal.gaps_spec (m : Nat) (e : Int) :
    1 ≤ (gaps m e).1 ∧ (gaps m e).1 ≤ 2 ∧ (gaps m e).2 = 2 := by
  unfold gaps
  split
  · exact ⟨le_rfl, by decide, rfl⟩
  · exact ⟨by decide, le_rfl, rfl⟩

theorem quarters_eq (e : Int) : (2 : ℚ) ^ e = 4 * 2 ^ (e - 2) := by
  rw [zpow_sub₀ two_ne_zero]
  norm_num
  ring

namespace Reads

variable {m : Nat} {e : Int} {v : ℚ}

/-- A number of quarters of the last place is read by the gaps alone. -/
theorem of_quarters {q : ℚ} {below above : Nat} (gaps : ShortDecimal.gaps m e = (below, above))
    (lower : 4 * m - below ≤ q) (upper : q ≤ 4 * m + above)
    (inner : m % 2 = 1 → 4 * m - below < q ∧ q < 4 * m + above) : Reads m e (q * 2 ^ (e - 2)) := by
  have unit : (0 : ℚ) < 2 ^ (e - 2) := by positivity
  constructor
  · rw [gaps]
    exact mul_le_mul_of_nonneg_right lower unit.le
  · rw [gaps]
    exact mul_le_mul_of_nonneg_right upper unit.le
  · rw [gaps]
    intro odd
    obtain ⟨lower, upper⟩ := inner odd
    exact ⟨mul_lt_mul_of_pos_right lower unit, mul_lt_mul_of_pos_right upper unit⟩

/-- What is read as a number is at most half a unit of its last place away. -/
theorem near (h : Reads m e v) : |v - m * 2 ^ e| ≤ 2 ^ e / 2 := by
  obtain ⟨-, below, above⟩ := ShortDecimal.gaps_spec m e
  have unit : (0 : ℚ) < 2 ^ (e - 2) := by positivity
  have below : ((ShortDecimal.gaps m e).1 : ℚ) ≤ 2 := by exact_mod_cast below
  have product := mul_le_mul_of_nonneg_right below unit.le
  have lower := h.lower
  have upper := h.upper
  rw [sub_mul] at lower
  rw [above, add_mul] at upper
  push_cast at upper
  rw [quarters_eq e, abs_le]
  constructor <;> linarith

theorem pos (h : Reads m e v) (m_pos : 0 < m) : 0 < v := by
  obtain ⟨-, below, -⟩ := ShortDecimal.gaps_spec m e
  have below : ((ShortDecimal.gaps m e).1 : ℚ) ≤ 2 := by exact_mod_cast below
  have m_pos : (1 : ℚ) ≤ m := by exact_mod_cast m_pos
  refine lt_of_lt_of_le ?_ h.lower
  have unit : (0 : ℚ) < 2 ^ (e - 2) := by positivity
  exact mul_pos (by linarith) unit

/-- What lies between a number and something that is read as it is read as it, too. -/
theorem between (h : Reads m e v) {w : ℚ}
    (within : v ≤ w ∧ w ≤ m * 2 ^ e ∨ m * 2 ^ e ≤ w ∧ w ≤ v) : Reads m e w := by
  obtain ⟨below, -, above⟩ := ShortDecimal.gaps_spec m e
  have unit : (0 : ℚ) < 2 ^ (e - 2) := by positivity
  have below : (1 : ℚ) ≤ (ShortDecimal.gaps m e).1 := by exact_mod_cast below
  have low : (4 * (m : ℚ) - (ShortDecimal.gaps m e).1) * 2 ^ (e - 2) < m * 2 ^ e := by
    rw [quarters_eq e]
    nlinarith
  have high : m * 2 ^ e < (4 * (m : ℚ) + (ShortDecimal.gaps m e).2) * 2 ^ (e - 2) := by
    rw [quarters_eq e, above]
    push_cast
    nlinarith
  obtain ⟨from_v, to_m⟩ | ⟨from_m, to_v⟩ := within
  · exact ⟨h.lower.trans from_v, to_m.trans high.le,
      fun odd => ⟨(h.inner odd).1.trans_le from_v, to_m.trans_lt high⟩⟩
  · exact ⟨low.le.trans from_m, to_v.trans h.upper,
      fun odd => ⟨low.trans_le from_m, to_v.trans_lt (h.inner odd).2⟩⟩

/-- Half a unit of the last place above a number is read as the number. -/
theorem of_above (from_m : m * 2 ^ e ≤ v) (near : v < m * 2 ^ e + 2 ^ e / 2) : Reads m e v := by
  obtain ⟨below, -, above⟩ := ShortDecimal.gaps_spec m e
  have unit : (0 : ℚ) < 2 ^ (e - 2) := by positivity
  have below : (1 : ℚ) ≤ (ShortDecimal.gaps m e).1 := by exact_mod_cast below
  rw [quarters_eq e] at from_m near
  have low : (4 * (m : ℚ) - (ShortDecimal.gaps m e).1) * 2 ^ (e - 2) < v := by nlinarith
  have high : v < (4 * (m : ℚ) + (ShortDecimal.gaps m e).2) * 2 ^ (e - 2) := by
    rw [above]
    push_cast
    linarith
  exact ⟨low.le, high.le, fun _ => ⟨low, high⟩⟩

/-- Half a unit below a number is read as the number, too, unless it is a power of two. -/
theorem of_below (wide : ShortDecimal.gaps m e = (2, 2)) (near : m * 2 ^ e - 2 ^ e / 2 < v)
    (to_m : v ≤ m * 2 ^ e) : Reads m e v := by
  have unit : (0 : ℚ) < 2 ^ (e - 2) := by positivity
  rw [quarters_eq e] at near to_m
  have low : (4 * (m : ℚ) - (2 : Nat)) * 2 ^ (e - 2) < v := by
    push_cast
    linarith
  have high : v < (4 * (m : ℚ) + (2 : Nat)) * 2 ^ (e - 2) := by
    push_cast
    linarith
  refine ⟨?_, ?_, fun _ => ⟨?_, ?_⟩⟩ <;> rw [wide]
  · exact low.le
  · exact high.le
  · exact low
  · exact high

end Reads

namespace Binary64

theorem shiftQuotient_spec (num : Nat) {den : Nat} (positive : 0 < den) (k : Int) :
    0 < (shiftQuotient num den k).2 ∧
      ratio (shiftQuotient num den k) = num / den * 2 ^ k := by
  unfold shiftQuotient
  split
  · rename_i up
    obtain ⟨n, rfl⟩ := Int.eq_ofNat_of_zero_le up
    refine ⟨positive, ?_⟩
    simp only [ratio, Int.toNat_natCast, Nat.pow_eq, zpow_natCast]
    push_cast
    ring
  · rename_i down
    obtain ⟨n, rfl⟩ : ∃ n : Nat, k = -n := ⟨(-k).toNat, by omega⟩
    refine ⟨Nat.mul_pos positive (Nat.pow_pos (by decide)), ?_⟩
    simp only [ratio, neg_neg, Int.toNat_natCast, Nat.pow_eq, zpow_neg, zpow_natCast]
    push_cast
    rw [div_mul_eq_div_div, div_eq_mul_inv _ ((2 : ℚ) ^ n)]

/-- A natural number is at most a half away, and an odd one is nearer than that. -/
structure Nearest (y : ℚ) (q : Nat) : Prop where
  below : (q : ℚ) - 1 / 2 ≤ y
  above : y ≤ q + 1 / 2
  inner : q % 2 = 1 → (q : ℚ) - 1 / 2 < y ∧ y < q + 1 / 2

theorem roundQuotient_nearest (num : Nat) {den : Nat} (positive : 0 < den) :
    Nearest (num / den) (roundQuotient num den) := by
  have den_pos : (0 : ℚ) < den := by exact_mod_cast positive
  have value : (num : ℚ) / den = (num / den : Nat) + ((num % den : Nat) : ℚ) / den := by
    have split : (num : ℚ) = den * (num / den : Nat) + (num % den : Nat) := by
      exact_mod_cast (Nat.div_add_mod num den).symm
    rw [eq_comm, ← mul_right_inj' den_pos.ne', mul_add, mul_div_cancel₀ _ den_pos.ne',
      mul_div_cancel₀ _ den_pos.ne', split]
  have rest_nonneg : 0 ≤ ((num % den : Nat) : ℚ) / den := by positivity
  have rest_lt : ((num % den : Nat) : ℚ) / den < 1 := by
    rw [div_lt_one den_pos]
    exact_mod_cast Nat.mod_lt num positive
  have next : ((num / den + 1 : Nat) : ℚ) = (num / den : Nat) + 1 := Nat.cast_succ _
  rw [value, roundQuotient]
  obtain less | half | more := lt_trichotomy (2 * (num % den)) den
  · have small : ((num % den : Nat) : ℚ) / den < 1 / 2 := by
      rw [div_lt_div_iff₀ den_pos two_pos, mul_comm, one_mul]
      exact_mod_cast less
    rw [if_pos less]
    exact ⟨by linarith, by linarith, fun _ => ⟨by linarith, by linarith⟩⟩
  · have middle : ((num % den : Nat) : ℚ) / den = 1 / 2 := by
      rw [div_eq_div_iff den_pos.ne' two_ne_zero, mul_comm, one_mul]
      exact_mod_cast half
    rw [if_neg half.not_lt, if_neg half.not_gt, middle]
    -- The tie goes to the even one of the two neighbours.
    obtain even | odd := Nat.mod_two_eq_zero_or_one (num / den)
    · rw [even, Nat.add_zero]
      refine ⟨by linarith, le_rfl, fun odd => ?_⟩
      rw [even] at odd
      cases odd
    · rw [odd]
      refine ⟨by linarith, by linarith, fun odd => ?_⟩
      omega
  · have large : 1 / 2 < ((num % den : Nat) : ℚ) / den := by
      rw [div_lt_div_iff₀ two_pos den_pos, one_mul, mul_comm]
      exact_mod_cast more
    rw [if_neg more.not_gt, if_pos more]
    exact ⟨by linarith, by linarith, fun _ => ⟨by linarith, by linarith⟩⟩

/-- A positive quotient has one more or one less binary digit than the widths of its parts say. -/
theorem quotient_bounds {num den : Nat} (num_pos : 0 < num) (den_pos : 0 < den) {k : Int}
    (width : k = (num.log2 : Int) - den.log2) :
    (2 : ℚ) ^ (k - 1) < num / den ∧ (num : ℚ) / den < 2 ^ (k + 1) := by
  have num_low : (2 : ℚ) ^ (num.log2 : Int) ≤ num := by
    exact_mod_cast Nat.log2_self_le num_pos.ne'
  have num_high : (num : ℚ) < 2 ^ (num.log2 + 1 : Int) := by
    exact_mod_cast Nat.lt_log2_self
  have den_low : (2 : ℚ) ^ (den.log2 : Int) ≤ den := by
    exact_mod_cast Nat.log2_self_le den_pos.ne'
  have den_high : (den : ℚ) < 2 ^ (den.log2 + 1 : Int) := by
    exact_mod_cast Nat.lt_log2_self
  have den_pos : (0 : ℚ) < den := by exact_mod_cast den_pos
  constructor
  · rw [lt_div_iff₀ den_pos]
    calc (2 : ℚ) ^ (k - 1) * den < 2 ^ (k - 1) * 2 ^ (den.log2 + 1 : Int) := by gcongr
      _ = 2 ^ (num.log2 : Int) := by rw [← zpow_add₀ two_ne_zero]; congr 1; omega
      _ ≤ num := num_low
  · rw [div_lt_iff₀ den_pos]
    calc (num : ℚ) < 2 ^ (num.log2 + 1 : Int) := num_high
      _ = 2 ^ (k + 1) * 2 ^ (den.log2 : Int) := by rw [← zpow_add₀ two_ne_zero]; congr 1; omega
      _ ≤ 2 ^ (k + 1) * den := by gcongr

/-- A quotient has a mantissa of full precision, unless it is too small for one. -/
theorem quotientExponent_spec {num den : Nat} (num_pos : 0 < num) (den_pos : 0 < den) :
    minExponent ≤ quotientExponent num den ∧
      (num : ℚ) / den < 2 ^ (quotientExponent num den + 53) ∧
      (minExponent < quotientExponent num den →
        (2 : ℚ) ^ (quotientExponent num den + 52) ≤ num / den) := by
  obtain ⟨e, exponent, low, high⟩ : ∃ e, quotientExponent num den = max minExponent e ∧
      (2 : ℚ) ^ (e + 52) ≤ num / den ∧ (num : ℚ) / den < 2 ^ (e + 53) := by
    obtain ⟨k, width⟩ : ∃ k : Int, k = (num.log2 : Int) - den.log2 := ⟨_, rfl⟩
    obtain ⟨above, below⟩ := quotient_bounds num_pos den_pos width
    obtain ⟨shifted_pos, shifted⟩ := shiftQuotient_spec num den_pos (-k)
    have reached : (shiftQuotient num den (-k)).2 ≤ (shiftQuotient num den (-k)).1 ↔
        (2 : ℚ) ^ k ≤ num / den := by
      rw [← one_le_ratio shifted_pos, shifted, zpow_neg, ← div_eq_mul_inv,
        one_le_div (by positivity)]
    have exponent : quotientExponent num den = max minExponent
        (if (shiftQuotient num den (-k)).2 ≤ (shiftQuotient num den (-k)).1 then k - 52
          else k - 53) := by
      rw [width]
      rfl
    refine ⟨_, exponent, ?_⟩
    split
    · rename_i reach
      rw [Int.sub_add_cancel, show k - 52 + 53 = k + 1 by ring]
      exact ⟨reached.mp reach, below⟩
    · rename_i short
      rw [Int.sub_add_cancel, show k - 53 + 52 = k - 1 by ring]
      exact ⟨above.le, lt_of_not_ge (mt reached.mpr short)⟩
  have least : e ≤ max minExponent e := le_max_right _ _
  rw [exponent]
  refine ⟨le_max_left _ _, high.trans_le ?_, fun above => ?_⟩
  · gcongr
    exact one_le_two
  · rwa [max_eq_right (lt_max_iff.mp above |>.resolve_left (lt_irrefl _)).le]

/-- The mantissa has full precision, or the exponent is the least one. -/
structure Canonical (m : Nat) (e : Int) : Prop where
  short : m < 2 ^ 53
  least : minExponent ≤ e
  full : minExponent < e → 2 ^ 52 ≤ m

/-- The natural number nearest to a rational, as a mantissa. -/
theorem Nearest.canonical {y : ℚ} {q : Nat} {e : Int} (nearest : Nearest y q)
    (y_lt : y < 2 ^ 53) (full : minExponent < e → (2 : ℚ) ^ 52 ≤ y) (least : minExponent ≤ e)
    (noCarry : q ≠ 2 ^ 53) : Canonical q e := by
  have short : (q : ℚ) < (2 ^ 53 + 1 : Nat) := by
    push_cast
    linarith [nearest.below]
  have short : q < 2 ^ 53 + 1 := by exact_mod_cast short
  refine ⟨by omega, least, fun above => ?_⟩
  have wide : ((2 ^ 52 : Nat) : ℚ) < (q + 1 : Nat) := by
    push_cast
    linarith [nearest.above, full above]
  have wide : 2 ^ 52 < q + 1 := by exact_mod_cast wide
  omega

/-- What is near to a mantissa in units of the last place is read as the number. -/
theorem Nearest.reads {y : ℚ} {q : Nat} {e : Int} (nearest : Nearest y q)
    (full : minExponent < e → (2 : ℚ) ^ 52 ≤ y) : Reads q e (4 * y * 2 ^ (e - 2)) := by
  obtain ⟨below, above, inner⟩ := nearest
  by_cases edge : q = Nat.pow 2 52 ∧ minExponent < e
  · -- Below a power of two the gap is a half as wide, and nothing is rounded up to the power.
    have gaps : ShortDecimal.gaps q e = (1, 2) := if_pos edge
    have reached : (q : ℚ) ≤ y := by
      rw [edge.1]
      exact_mod_cast full edge.2
    refine .of_quarters gaps ?_ ?_ fun odd => ?_
    · push_cast
      linarith
    · push_cast
      linarith
    · rw [edge.1] at odd
      cases odd
  · have gaps : ShortDecimal.gaps q e = (2, 2) := if_neg edge
    refine .of_quarters gaps ?_ ?_ fun odd => ?_
    · push_cast
      linarith
    · push_cast
      linarith
    · obtain ⟨below, above⟩ := inner odd
      push_cast
      constructor <;> linarith

/-- What is rounded up to a power of two is read as that power. -/
theorem reads_of_carry {y : ℚ} {e : Int} (least : minExponent ≤ e)
    (below : (2 : ℚ) ^ 53 - 1 / 2 ≤ y) (y_lt : y < 2 ^ 53) :
    Reads (2 ^ 52) (e + 1) (4 * y * 2 ^ (e - 2)) := by
  have edge : ShortDecimal.gaps (2 ^ 52) (e + 1) = (1, 2) := if_pos ⟨rfl, by omega⟩
  have halved : 4 * y * 2 ^ (e - 2) = 2 * y * 2 ^ (e + 1 - 2) := by
    rw [show e + 1 - 2 = 1 + (e - 2) by ring, zpow_one_add₀ two_ne_zero]
    ring
  rw [halved]
  refine .of_quarters edge ?_ ?_ fun odd => ?_
  · push_cast
    linarith
  · push_cast
    linarith
  · cases odd

/-- A positive quotient is rounded to a number that reads it. -/
theorem ofQuotient_reads (negative : Bool) {num den : Nat} (num_pos : 0 < num) (den_pos : 0 < den) :
    ∃ m e, ofQuotient negative num den =
        (if maxExponent < e then infinity negative else finite negative m e) ∧
      Canonical m e ∧ Reads m e (num / den) := by
  obtain ⟨least, small, full⟩ := quotientExponent_spec num_pos den_pos
  obtain ⟨shifted_pos, shifted⟩ := shiftQuotient_spec num den_pos (-quotientExponent num den)
  have nearest := roundQuotient_nearest
    (shiftQuotient num den (-quotientExponent num den)).1 shifted_pos
  obtain ⟨e, exponent⟩ : ∃ e, quotientExponent num den = e := ⟨_, rfl⟩
  rw [exponent] at least small full shifted nearest
  obtain ⟨q, rounded⟩ : ∃ q, roundQuotient (shiftQuotient num den (-e)).1
    (shiftQuotient num den (-e)).2 = q := ⟨_, rfl⟩
  obtain ⟨y, scaled⟩ : ∃ y : ℚ, ratio (shiftQuotient num den (-e)) = y := ⟨_, rfl⟩
  rw [rounded, ← ratio, scaled] at nearest
  rw [scaled, zpow_neg, ← div_eq_mul_inv, eq_div_iff (by positivity)] at shifted
  have value : (num : ℚ) / den = 4 * y * 2 ^ (e - 2) := by
    rw [← shifted, zpow_sub₀ two_ne_zero]
    norm_num
    ring
  have y_lt : y < 2 ^ 53 := by
    rw [zpow_add₀ two_ne_zero, mul_comm, ← shifted] at small
    exact lt_of_mul_lt_mul_right small (by positivity)
  have y_full : minExponent < e → (2 : ℚ) ^ 52 ≤ y := by
    intro above
    have full := full above
    rw [zpow_add₀ two_ne_zero, mul_comm, ← shifted] at full
    exact le_of_mul_le_mul_right full (by positivity)
  rw [value]
  by_cases carry : q = 2 ^ 53
  · have below := nearest.below
    rw [carry, Nat.cast_pow, Nat.cast_ofNat] at below
    refine ⟨2 ^ 52, e + 1, ?_, ⟨by decide, by omega, fun _ => le_rfl⟩,
      reads_of_carry least below y_lt⟩
    simp only [ofQuotient, if_neg num_pos.ne', exponent, rounded, precision, Nat.pow_eq,
      if_pos carry, Nat.add_one_sub_one]
  · refine ⟨q, e, ?_, nearest.canonical y_lt y_full least carry, nearest.reads y_full⟩
    simp only [ofQuotient, if_neg num_pos.ne', exponent, rounded, precision, Nat.pow_eq,
      if_neg carry]

/-- A quotient with a short mantissa is rounded to itself. -/
theorem ofQuotient_exact (negative : Bool) {num den c : Nat} {j : Int} (num_pos : 0 < num)
    (den_pos : 0 < den) (value : (num : ℚ) / den = c * 2 ^ j) (short : c < 2 ^ 52)
    (low : minExponent ≤ j) (high : j ≤ maxExponent) :
    ∃ m e, ofQuotient negative num den = finite negative m e ∧ (m : ℚ) * 2 ^ e = num / den := by
  obtain ⟨m, e, rounded, canonical, reads⟩ := ofQuotient_reads negative num_pos den_pos
  have near := reads.near
  rw [value] at near ⊢
  -- A mantissa of full precision in units above `2 ^ j` is too large for the quotient.
  have fits : e ≤ j := by
    by_contra! coarse
    have full : ((2 ^ 52 : Nat) : ℚ) ≤ m := by exact_mod_cast canonical.full (by omega)
    have short : (c : ℚ) + 1 ≤ (2 ^ 52 : Nat) := by exact_mod_cast short
    have unit : (2 : ℚ) ^ j * 2 ≤ 2 ^ e := by
      rw [← zpow_add_one₀ two_ne_zero]
      gcongr
      · exact one_le_two
      · omega
    have beyond : (c : ℚ) * 2 ^ j < (m - 1 / 2) * 2 ^ e :=
      calc (c : ℚ) * 2 ^ j < 2 * (m - 1 / 2) * 2 ^ j := by gcongr; linarith
        _ = (m - 1 / 2) * (2 ^ j * 2) := by ring
        _ ≤ (m - 1 / 2) * 2 ^ e := by gcongr; linarith
    linarith [(abs_le.mp near).1]
  obtain ⟨i, rfl⟩ : ∃ i : Nat, j = e + i := ⟨(j - e).toNat, by omega⟩
  rw [if_neg (by omega)] at rounded
  refine ⟨m, e, rounded, ?_⟩
  have unit : (0 : ℚ) < 2 ^ e := by positivity
  have whole : (c : ℚ) * 2 ^ (e + i : Int) = ((c * 2 ^ i : Nat) : ℚ) * 2 ^ e := by
    rw [zpow_add₀ two_ne_zero, zpow_natCast]
    push_cast
    ring
  rw [whole] at near ⊢
  rw [eq_of_near unit (near.trans_lt (half_lt_self unit))]

/-- A quotient that is neither huge nor tiny is rounded to a number with a mantissa of full
precision. -/
theorem ofQuotient_normal (negative : Bool) {num den : Nat} (num_pos : 0 < num) (den_pos : 0 < den)
    (low : (2 : ℚ) ^ (-1000 : Int) ≤ num / den) (high : (num : ℚ) / den < 2 ^ (1000 : Int)) :
    ∃ m e, ofQuotient negative num den = finite negative m e ∧ Canonical m e ∧ 2 ^ 52 ≤ m ∧
      Reads m e (num / den) := by
  obtain ⟨m, e, rounded, canonical, reads⟩ := ofQuotient_reads negative num_pos den_pos
  obtain ⟨above, below⟩ := abs_le.mp reads.near
  have full : minExponent < e := by
    by_contra! least
    obtain rfl : e = minExponent := le_antisymm least canonical.least
    have unit : (0 : ℚ) < 2 ^ minExponent := by positivity
    have tiny : (2 : ℚ) ^ (-1000 : Int) = 2 ^ (74 : Int) * 2 ^ minExponent := by
      rw [← zpow_add₀ two_ne_zero]
      rfl
    have short : (m : ℚ) ≤ (2 ^ 53 : Nat) := by exact_mod_cast canonical.short.le
    have product := mul_le_mul_of_nonneg_right short unit.le
    rw [tiny] at low
    norm_num at low product
    linarith
  have full := canonical.full full
  have finite : ¬maxExponent < e := by
    intro large
    have unit : (0 : ℚ) < 2 ^ e := by positivity
    have huge : (2 : ℚ) ^ (1000 : Int) ≤ 2 ^ (28 : Int) * 2 ^ e := by
      rw [← zpow_add₀ two_ne_zero]
      gcongr
      · exact one_le_two
      · rw [maxExponent] at large
        omega
    have full : ((2 ^ 52 : Nat) : ℚ) ≤ m := by exact_mod_cast full
    have product := mul_le_mul_of_nonneg_right full unit.le
    have high := high.trans_le huge
    norm_num at high product
    linarith only [above, high, product, unit]
  rw [if_neg finite] at rounded
  exact ⟨m, e, rounded, canonical, full, reads⟩

/-- Natural numbers with a short odd part are numbers of the format. -/
theorem ofNat_exact (negative : Bool) {c i : Nat} (c_pos : 0 < c) (short : c < 2 ^ 52)
    (small : i ≤ 900) :
    ∃ m e, ofNat negative (c * 2 ^ i) = finite negative m e ∧
      (m : ℚ) * 2 ^ e = (c * 2 ^ i : Nat) := by
  have value : ((c * 2 ^ i : Nat) : ℚ) / (1 : Nat) = c * 2 ^ (i : Int) := by
    push_cast
    rw [div_one, zpow_natCast]
  have positive : 0 < c * 2 ^ i := by positivity
  obtain ⟨m, e, rounded, same⟩ := ofQuotient_exact negative positive one_pos value short
    (by rw [minExponent]; omega) (by rw [maxExponent]; omega)
  refine ⟨m, e, rounded, ?_⟩
  rw [same, Nat.cast_one, div_one]

theorem tenPower_exact {n : Nat} (small : n ≤ 22) :
    ∃ m e, ofNat false (Nat.pow 10 n) = finite false m e ∧ 0 < m ∧ (m : ℚ) * 2 ^ e = 10 ^ n := by
  have short : 5 ^ n < 2 ^ 52 :=
    calc 5 ^ n ≤ 5 ^ 22 := Nat.pow_le_pow_right (by decide) small
      _ < 2 ^ 52 := by decide
  have split : Nat.pow 10 n = 5 ^ n * 2 ^ n := by rw [← Nat.mul_pow]; rfl
  obtain ⟨m, e, rounded, same⟩ := ofNat_exact false (by positivity) short (show n ≤ 900 by omega)
  rw [← split, Nat.pow_eq] at same
  push_cast at same
  refine ⟨m, e, split ▸ rounded, ?_, same⟩
  rw [← Nat.cast_pos (α := ℚ), ← mul_pos_iff_of_pos_right (show (0 : ℚ) < 2 ^ e by positivity),
    same]
  positivity

/-- Scaling by a small power of ten rounds once. -/
theorem timesPowerOfTen_eq (negative : Bool) {m n : Nat} {e : Int} (m_pos : 0 < m)
    (small : n ≤ 22) :
    ∃ num den : Nat, 0 < num ∧ 0 < den ∧
      (finite negative m e).timesPowerOfTen n = ofQuotient negative num den ∧
      (num : ℚ) / den = m * 2 ^ e * 10 ^ n := by
  obtain ⟨m', e', power, -, same⟩ := tenPower_exact small
  obtain ⟨den_pos, value⟩ := shiftQuotient_spec (m * m') one_pos (e + e')
  have scaled : ratio (shiftQuotient (m * m') 1 (e + e')) = m * 2 ^ e * 10 ^ n := by
    rw [value, ← same, zpow_add₀ two_ne_zero]
    push_cast
    ring
  have num_pos := pos_of_ratio_pos (scaled ▸ (by positivity : (0 : ℚ) < m * 2 ^ e * 10 ^ n))
  refine ⟨_, _, num_pos, den_pos, ?_, scaled⟩
  simp only [timesPowerOfTen, power, magnitude]

theorem overPowerOfTen_eq (negative : Bool) {m n : Nat} {e : Int} (m_pos : 0 < m)
    (small : n ≤ 22) :
    ∃ num den : Nat, 0 < num ∧ 0 < den ∧
      (finite negative m e).overPowerOfTen n = ofQuotient negative num den ∧
      (num : ℚ) / den = m * 2 ^ e / 10 ^ n := by
  obtain ⟨m', e', power, m'_pos, same⟩ := tenPower_exact small
  obtain ⟨den_pos, value⟩ := shiftQuotient_spec m m'_pos (e - e')
  have scaled : ratio (shiftQuotient m m' (e - e')) = m * 2 ^ e / 10 ^ n := by
    rw [value, ← same, zpow_sub₀ two_ne_zero]
    field_simp
  have num_pos := pos_of_ratio_pos (scaled ▸ (by positivity : (0 : ℚ) < m * 2 ^ e / 10 ^ n))
  refine ⟨_, _, num_pos, den_pos, ?_, scaled⟩
  simp only [overPowerOfTen, power]

theorem shiftQuotient_zero (den : Nat) (k : Int) : (shiftQuotient 0 den k).1 = 0 := by
  unfold shiftQuotient
  split
  · exact Nat.zero_mul _
  · rfl

/-- However it is scaled, zero stays zero. -/
theorem timesPowerOfTen_zero (negative : Bool) (n : Nat) (e : Int) :
    (finite negative 0 e).timesPowerOfTen n = finite negative 0 minExponent ∨
      ((finite negative 0 e).timesPowerOfTen n).isInfinite = true := by
  rw [timesPowerOfTen]
  split
  · rw [magnitude, Nat.zero_mul]
    exact .inl (if_pos (shiftQuotient_zero _ _))
  · exact .inr rfl

theorem overPowerOfTen_zero (negative : Bool) (n : Nat) (e : Int) :
    (finite negative 0 e).overPowerOfTen n = finite negative 0 minExponent := by
  rw [overPowerOfTen]
  split
  · exact if_pos (shiftQuotient_zero _ _)
  · rfl

/-- A finite number is canonical. -/
def Formed : Binary64 → Prop
  | finite _ m e => Canonical m e
  | _ => True

theorem formed_zero (negative : Bool) : Formed (finite negative 0 minExponent) :=
  ⟨by decide, le_rfl, fun above => absurd above (lt_irrefl _)⟩

theorem formed_ofQuotient (negative : Bool) (num : Nat) {den : Nat} (den_pos : 0 < den) :
    Formed (ofQuotient negative num den) := by
  rcases Nat.eq_zero_or_pos num with rfl | num_pos
  · exact formed_zero negative
  · obtain ⟨m, e, rounded, canonical, -⟩ := ofQuotient_reads negative num_pos den_pos
    rw [rounded]
    split
    · trivial
    · exact canonical

/-- No positive natural number is rounded to zero. -/
theorem pos_of_ofNat {negative negative' : Bool} {n m : Nat} {e : Int} (n_pos : 0 < n)
    (h : ofNat negative n = finite negative' m e) : 0 < m := by
  obtain ⟨m', e', rounded, canonical, reads⟩ := ofQuotient_reads negative n_pos one_pos
  rw [ofNat, rounded] at h
  split at h
  · cases h
  · cases h
    refine Nat.pos_of_ne_zero fun zero => ?_
    have least : e ≤ minExponent := by
      by_contra! above
      have full := canonical.full above
      omega
    have near := reads.near
    have large : (1 : ℚ) ≤ n := by exact_mod_cast n_pos
    have tiny : (2 : ℚ) ^ e ≤ 1 := zpow_le_one_of_nonpos₀ one_le_two (least.trans (by decide))
    rw [zero, Nat.cast_one, div_one, Nat.cast_zero, zero_mul, sub_zero,
      abs_of_nonneg (by linarith)] at near
    linarith

theorem formed_timesPowerOfTen {x : Binary64} (h : Formed x) (n : Nat) :
    Formed (x.timesPowerOfTen n) := by
  cases x with
  | nan | infinity => exact h
  | finite negative m e =>
    rw [timesPowerOfTen]
    split
    · exact formed_ofQuotient negative _ (shiftQuotient_spec _ one_pos _).1
    · trivial

theorem formed_overPowerOfTen {x : Binary64} (h : Formed x) (n : Nat) :
    Formed (x.overPowerOfTen n) := by
  cases x with
  | nan | infinity => exact h
  | finite negative m e =>
    rw [overPowerOfTen]
    split
    · rename_i power
      have positive := pos_of_ofNat (Nat.pow_pos (by decide)) power
      exact formed_ofQuotient negative _ (shiftQuotient_spec _ positive _).1
    · exact formed_zero negative

theorem formed_withSign {x : Binary64} (h : Formed x) (negative : Bool) :
    Formed (x.withSign negative) := by
  cases x <;> exact h

end Binary64
end EntityFilter
