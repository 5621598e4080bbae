import EntityFilter.Proofs.Number.Rounding

/-!
The shortest decimal that reads as a number.  The decimal that is found reads as the number, and a
decimal of at most fifteen digits that reads as the number is the one that is found.
-/

namespace EntityFilter
namespace ShortDecimal

open Binary64

/-- The rational number that a decimal is. -/
def value (d : ShortDecimal) : ℚ := d.digits * 10 ^ d.exponent

theorem width_bounds {n : Nat} (positive : 0 < n) :
    ∃ k, width n = k + 1 ∧ 10 ^ k ≤ n ∧ n < 10 ^ (k + 1) := by
  have positive_width : 0 < width n := List.length_pos_iff.mpr Nat.toDigits_ne_nil
  obtain ⟨k, spelled⟩ := Nat.exists_eq_add_one_of_ne_zero positive_width.ne'
  have bound : ∀ {j}, 0 < j → (width n ≤ j ↔ n < 10 ^ j) :=
    fun h => Nat.length_toDigits_le_iff (by decide) h
  refine ⟨k, spelled, ?_, (bound k.succ_pos).mp spelled.le⟩
  rcases Nat.eq_zero_or_pos k with rfl | above
  · exact positive
  · refine Nat.le_of_not_lt fun less => ?_
    have := (bound above).mpr less
    omega

/-- A proper fraction lies above `1 / (c + 1)` and not above `1 / c`, for the `c` whose digits are
counted. -/
theorem width_fraction {num den : Nat} (num_pos : 0 < num) (less : num < den) :
    ∃ k, width ((den + num - 1) / num - 1) = k + 1 ∧ 10 ^ k * num < den ∧
      den ≤ 10 ^ (k + 1) * num := by
  obtain ⟨c, round_up⟩ : ∃ c, (den + num - 1) / num - 1 = c := ⟨_, rfl⟩
  have two : 2 ≤ (den + num - 1) / num := by
    rw [Nat.le_div_iff_mul_le num_pos]
    omega
  have c_le : (c + 1) * num ≤ den + num - 1 := by
    rw [← Nat.le_div_iff_mul_le num_pos]
    omega
  have c_lt : den + num - 1 < (c + 2) * num := by
    rw [← Nat.div_lt_iff_lt_mul num_pos]
    omega
  rw [Nat.add_mul] at c_le c_lt
  obtain ⟨k, width_eq, low, high⟩ := width_bounds (show 0 < c by omega)
  have low := Nat.mul_le_mul_right num low
  have high := Nat.mul_le_mul_right num high
  rw [Nat.succ_mul] at high
  exact ⟨k, round_up ▸ width_eq, by omega, by omega⟩

/-- The leading digit of a positive quotient has the exponent that is computed for it. -/
theorem leadingExponent_spec {num den : Nat} (num_pos : 0 < num) (den_pos : 0 < den) :
    (10 : ℚ) ^ leadingExponent num den ≤ num / den ∧
      (num : ℚ) / den < 10 ^ (leadingExponent num den + 1) := by
  have den_pos' : (0 : ℚ) < den := by exact_mod_cast den_pos
  unfold leadingExponent
  split
  · rename_i whole
    obtain ⟨k, width_eq, low, high⟩ := width_bounds (Nat.div_pos whole den_pos)
    rw [width_eq]
    push_cast
    rw [Int.add_sub_cancel, le_div_iff₀ den_pos', div_lt_iff₀ den_pos']
    constructor
    · have le := (Nat.le_div_iff_mul_le den_pos).mp low
      exact_mod_cast le
    · have lt := (Nat.div_lt_iff_lt_mul den_pos).mp high
      exact_mod_cast lt
  · rename_i fraction
    obtain ⟨k, width_eq, less, enough⟩ := width_fraction num_pos (not_le.mp fraction)
    rw [width_eq, le_div_iff₀ den_pos', div_lt_iff₀ den_pos']
    push_cast
    constructor
    · rw [zpow_neg, inv_mul_le_iff₀ (by positivity)]
      exact_mod_cast enough
    · rw [neg_add_rev, neg_add_cancel_comm, zpow_neg, ← div_eq_inv_mul, lt_div_iff₀ (by positivity),
        mul_comm]
      exact_mod_cast less

theorem quarterOverStep_spec (e step : Int) :
    0 < (quarterOverStep e step).2 ∧ ratio (quarterOverStep e step) = 2 ^ (e - 2) / 10 ^ step := by
  obtain ⟨den_pos, unit⟩ := shiftQuotient_spec 1 one_pos (e - 2)
  rw [Nat.cast_one, div_one, one_mul] at unit
  by_cases up : 0 ≤ step
  · simp only [quarterOverStep, if_pos up]
    obtain ⟨n, rfl⟩ := Int.eq_ofNat_of_zero_le up
    refine ⟨Nat.mul_pos den_pos (Nat.pow_pos (by decide)), ?_⟩
    rw [← unit]
    simp only [ratio, Int.toNat_natCast, Nat.pow_eq, zpow_natCast]
    push_cast
    rw [div_mul_eq_div_div]
  · simp only [quarterOverStep, if_neg up]
    obtain ⟨n, rfl⟩ : ∃ n : Nat, step = -n := ⟨(-step).toNat, by omega⟩
    refine ⟨den_pos, ?_⟩
    rw [← unit]
    simp only [ratio, neg_neg, Int.toNat_natCast, Nat.pow_eq, zpow_neg, zpow_natCast]
    push_cast
    rw [div_inv_eq_mul, mul_div_right_comm]

/-- The grid of `n` significant digits around a number has this step. -/
def gridStep (m : Nat) (e : Int) (n : Nat) : Int :=
  leadingExponent (magnitude m e).1 (magnitude m e).2 - n + 1

/-- The point of a grid just below a number, or the number itself. -/
def floor (m : Nat) (e step : Int) : Nat :=
  4 * m * (quarterOverStep e step).1 / (quarterOverStep e step).2

/-- The nearer one of the points of a grid around a number. -/
def nearer (tie : DecimalTie) (m : Nat) (e step : Int) : Nat :=
  let (a, b) := quarterOverStep e step
  let d := floor m e step
  let r := 4 * m * a % b
  if 2 * r < b then d
  else if b < 2 * r then d + 1
  else match tie with
    | .up => d + 1
    | .even => d + d % 2

theorem nearer_eq (tie : DecimalTie) (m : Nat) (e step : Int) :
    nearer tie m e step = floor m e step ∨ nearer tie m e step = floor m e step + 1 := by
  simp only [nearer]
  split
  · exact .inl rfl
  · split
    · exact .inr rfl
    · split
      · exact .inr rfl
      · omega

/-- The test of a point of a grid. -/
def inside (m : Nat) (e step : Int) (d : Nat) : Bool :=
  let (a, b) := quarterOverStep e step
  let (below, above) := gaps m e
  if m % 2 = 0 then (4 * m - below) * a ≤ d * b && d * b ≤ (4 * m + above) * a
  else (4 * m - below) * a < d * b && d * b < (4 * m + above) * a

theorem onGrid?_eq (tie : DecimalTie) (m : Nat) (e : Int) (n : Nat) :
    onGrid? tie m e n =
      match inside m e (gridStep m e n) (floor m e (gridStep m e n)),
        inside m e (gridStep m e n) (floor m e (gridStep m e n) + 1) with
      | true, true => some ⟨nearer tie m e (gridStep m e n), gridStep m e n⟩
      | true, false => some ⟨floor m e (gridStep m e n), gridStep m e n⟩
      | false, true => some ⟨floor m e (gridStep m e n) + 1, gridStep m e n⟩
      | false, false => none := rfl

/-- What is found is one of the two points around the number, and passes the test. -/
theorem of_onGrid?_eq_some {tie : DecimalTie} {m n : Nat} {e : Int} {d : ShortDecimal}
    (h : onGrid? tie m e n = some d) :
    d.exponent = gridStep m e n ∧ inside m e (gridStep m e n) d.digits = true ∧
      d.digits ≤ floor m e (gridStep m e n) + 1 := by
  rw [onGrid?_eq] at h
  split at h
  · rename_i low high
    cases h
    obtain near | near := nearer_eq tie m e (gridStep m e n)
    · exact ⟨rfl, near ▸ low, near.trans_le (Nat.le_succ _)⟩
    · exact ⟨rfl, near ▸ high, near.le⟩
  · rename_i low _
    cases h
    exact ⟨rfl, low, Nat.le_succ _⟩
  · rename_i _ high
    cases h
    exact ⟨rfl, high, le_rfl⟩
  · cases h

theorem onGrid?_eq_none_iff {tie : DecimalTie} {m n : Nat} {e : Int} :
    onGrid? tie m e n = none ↔
      inside m e (gridStep m e n) (floor m e (gridStep m e n)) = false ∧
        inside m e (gridStep m e n) (floor m e (gridStep m e n) + 1) = false := by
  rw [onGrid?_eq]
  split <;> simp_all

/-- Products of natural numbers compare like the rationals that they stand for. -/
theorem scaled_le_iff {a b : Nat} {unit step : ℚ} (b_pos : 0 < b) (step_pos : 0 < step)
    (quotient : ratio (a, b) = unit / step) (x d : Nat) :
    (x * a ≤ d * b ↔ (x : ℚ) * unit ≤ d * step) ∧
      (d * b ≤ x * a ↔ (d : ℚ) * step ≤ x * unit) := by
  have b_pos : (0 : ℚ) < b := by exact_mod_cast b_pos
  rw [ratio, div_eq_div_iff b_pos.ne' step_pos.ne'] at quotient
  have left : ((x * a : Nat) : ℚ) * step = x * unit * b := by
    push_cast
    rw [mul_assoc, quotient, mul_assoc]
  have right : ((d * b : Nat) : ℚ) * step = d * step * b := by
    push_cast
    ring
  constructor
  · rw [← Nat.cast_le (α := ℚ), ← mul_le_mul_iff_left₀ step_pos, left, right,
      mul_le_mul_iff_left₀ b_pos]
  · rw [← Nat.cast_le (α := ℚ), ← mul_le_mul_iff_left₀ step_pos, left, right,
      mul_le_mul_iff_left₀ b_pos]

/-- The points of a grid that pass the test are those that read as the number. -/
theorem inside_iff {m : Nat} {e : Int} (m_pos : 0 < m) (step : Int) (d : Nat) :
    inside m e step d = true ↔ Reads m e (d * 10 ^ step) := by
  obtain ⟨b_pos, quotient⟩ := quarterOverStep_spec e step
  obtain ⟨a, b, quarter⟩ : ∃ a b, quarterOverStep e step = (a, b) := ⟨_, _, rfl⟩
  rw [quarter] at b_pos quotient
  have step_pos : (0 : ℚ) < 10 ^ step := by positivity
  have below : (gaps m e).1 ≤ 4 * m := (gaps_spec m e).2.1.trans (by omega)
  have lower : ((4 * m - (gaps m e).1 : Nat) : ℚ) = 4 * m - (gaps m e).1 := by
    rw [Nat.cast_sub below]
    push_cast
    rfl
  have upper : ((4 * m + (gaps m e).2 : Nat) : ℚ) = 4 * m + (gaps m e).2 := by
    push_cast
    rfl
  have low := scaled_le_iff b_pos step_pos quotient (4 * m - (gaps m e).1) d
  have high := scaled_le_iff b_pos step_pos quotient (4 * m + (gaps m e).2) d
  rw [lower] at low
  rw [upper] at high
  simp only [inside, quarter]
  obtain even | odd := Nat.mod_two_eq_zero_or_one m
  · rw [if_pos even, Bool.and_eq_true, decide_eq_true_iff, decide_eq_true_iff, low.1, high.2]
    exact ⟨fun h => ⟨h.1, h.2, fun odd => by omega⟩, fun h => ⟨h.lower, h.upper⟩⟩
  · rw [if_neg (by omega), Bool.and_eq_true, decide_eq_true_iff, decide_eq_true_iff, ← not_le,
      ← not_le, low.2, high.1, not_le, not_le]
    exact ⟨fun h => ⟨h.1.le, h.2.le, fun _ => h⟩, fun h => h.inner odd⟩

/-- A number lies between the points of a grid around it. -/
theorem floor_spec (m : Nat) (e step : Int) :
    (floor m e step : ℚ) * 10 ^ step ≤ m * 2 ^ e ∧
      m * 2 ^ e < ((floor m e step + 1 : Nat) : ℚ) * 10 ^ step := by
  obtain ⟨b_pos, quotient⟩ := quarterOverStep_spec e step
  obtain ⟨a, b, quarter⟩ : ∃ a b, quarterOverStep e step = (a, b) := ⟨_, _, rfl⟩
  have found : floor m e step = 4 * m * a / b := by rw [floor, quarter]
  rw [quarter] at b_pos quotient
  have step_pos : (0 : ℚ) < 10 ^ step := by positivity
  have number : ((4 * m : Nat) : ℚ) * 2 ^ (e - 2) = m * 2 ^ e := by
    rw [quarters_eq e]
    push_cast
    ring
  have low := (scaled_le_iff b_pos step_pos quotient (4 * m) (4 * m * a / b)).2
  have high := (scaled_le_iff b_pos step_pos quotient (4 * m) (4 * m * a / b + 1)).2
  rw [number] at low high
  rw [found]
  constructor
  · exact low.mp (Nat.div_mul_le_self _ _)
  · rw [← not_le, ← high, not_le]
    exact Nat.lt_mul_of_div_lt (Nat.lt_succ_self _) b_pos

/-- A grid with a point that reads as the number has such a point next to the number. -/
theorem exists_onGrid? (tie : DecimalTie) {m n d : Nat} {e : Int} (m_pos : 0 < m)
    (reads : Reads m e (d * 10 ^ gridStep m e n)) : ∃ r, onGrid? tie m e n = some r := by
  refine Option.ne_none_iff_exists'.mp fun none => ?_
  obtain ⟨notBelow, notAbove⟩ := onGrid?_eq_none_iff.mp none
  obtain ⟨below, above⟩ := floor_spec m e (gridStep m e n)
  have step_pos : (0 : ℚ) < 10 ^ gridStep m e n := by positivity
  obtain le | gt := Nat.lt_or_ge (floor m e (gridStep m e n)) d
  · have between := reads.between (.inr ⟨above.le, by gcongr; exact le⟩)
    rw [(inside_iff m_pos _ _).mpr between] at notAbove
    cases notAbove
  · have between := reads.between (.inl ⟨by gcongr, below⟩)
    rw [(inside_iff m_pos _ _).mpr between] at notBelow
    cases notBelow

/-- The first of several answers comes no later than one that is known. -/
theorem exists_findSome?_range {α : Type} {f : Nat → Option α} {n k : Nat} (k_lt : k < n) {a : α}
    (hit : f k = some a) :
    ∃ j ≤ k, ∃ b, f j = some b ∧ (List.range n).findSome? f = some b := by
  cases found : (List.range n).findSome? f with
  | none =>
    have none := List.findSome?_eq_none_iff.mp found k (List.mem_range.mpr k_lt)
    rw [hit] at none
    cases none
  | some b =>
    obtain ⟨before, j, after, split, answer, earlier⟩ := List.findSome?_eq_some_iff.mp found
    refine ⟨j, ?_, b, answer, rfl⟩
    by_contra! later
    have member : k ∈ before ++ j :: after := split ▸ List.mem_range.mpr k_lt
    have sorted : (before ++ j :: after).Pairwise (· < ·) := split ▸ List.pairwise_lt_range
    rcases List.mem_append.mp member with inBefore | inRest
    · rw [earlier k inBefore] at hit
      cases hit
    · rcases List.mem_cons.mp inRest with rfl | inAfter
      · exact lt_irrefl _ later
      · have beyond := (List.pairwise_cons.mp (List.pairwise_append.mp sorted).2.1).1 k inAfter
        exact lt_asymm beyond later

/-- Dropping zeros does not change the value. -/
theorem value_stripZeros (fuel n : Nat) (e : Int) :
    (stripZeros fuel n e).value = n * 10 ^ e := by
  induction fuel generalizing n e with
  | zero => rfl
  | succ fuel ih =>
    rw [stripZeros]
    split
    · rename_i zero
      have tens : n = n / 10 * 10 := by omega
      rw [ih, zpow_add_one₀ (by norm_num)]
      nth_rewrite 2 [tens]
      push_cast
      ring
    · rfl

/-- A point of a coarse grid is a point of a finer one. -/
theorem exists_multiple (d : Nat) {step coarse : Int} (le : step ≤ coarse) :
    ∃ c : Nat, (d : ℚ) * 10 ^ coarse = c * 10 ^ step := by
  obtain ⟨i, rfl⟩ : ∃ i : Nat, coarse = step + i := ⟨(coarse - step).toNat, by omega⟩
  refine ⟨d * 10 ^ i, ?_⟩
  rw [zpow_add₀ (by norm_num), zpow_natCast]
  push_cast
  ring

/-- A number lies in the first decade that its grids of digits cover. -/
theorem decade {m : Nat} (m_pos : 0 < m) (e : Int) (n : Nat) :
    (10 : ℚ) ^ (gridStep m e n + n - 1) ≤ m * 2 ^ e ∧
      (m : ℚ) * 2 ^ e < 10 ^ (gridStep m e n + n) := by
  obtain ⟨den_pos, value⟩ := shiftQuotient_spec m one_pos e
  rw [Nat.cast_one, div_one] at value
  have num_pos := pos_of_ratio_pos (value ▸ (by positivity : (0 : ℚ) < m * 2 ^ e))
  obtain ⟨low, high⟩ := leadingExponent_spec num_pos den_pos
  rw [← ratio, value, ← magnitude] at low high
  rw [gridStep, show ∀ p : Int, p - n + 1 + n - 1 = p by intro p; ring,
    show ∀ p : Int, p - n + 1 + n = p + 1 by intro p; ring]
  exact ⟨low, high⟩

/-- A decimal of fifteen digits that reads as a number is a point of the grid of fifteen digits
around the number. -/
theorem gridStep_le {m d : Nat} {e exponent : Int} (full : 2 ^ 52 ≤ m) (short : d < 10 ^ 15)
    (reads : Reads m e (d * 10 ^ exponent)) : gridStep m e 15 ≤ exponent := by
  by_contra! fine
  obtain ⟨low, -⟩ := decade (show 0 < m by omega) e 15
  obtain ⟨above, below⟩ := abs_le.mp reads.near
  have step_pos : (0 : ℚ) < 10 ^ (gridStep m e 15 - 1) := by positivity
  have decade : (10 : ℚ) ^ (gridStep m e 15 + 15 - 1) = 10 ^ 15 * 10 ^ (gridStep m e 15 - 1) := by
    rw [← zpow_natCast, ← zpow_add₀ (by norm_num)]
    congr 1
    push_cast
    ring
  have value : (d : ℚ) * 10 ^ exponent ≤ (10 ^ 15 - 1) * 10 ^ (gridStep m e 15 - 1) := by
    have short : (d : ℚ) + 1 ≤ 10 ^ 15 := by exact_mod_cast short
    gcongr
    · linarith
    · norm_num
    · omega
  have unit : (2 : ℚ) ^ 52 * 2 ^ e ≤ m * 2 ^ e := by
    gcongr
    exact_mod_cast full
  push_cast at low
  rw [decade] at low
  norm_num at low value unit
  -- The number is above a power of ten and the decimal at least a whole point of the grid below it.
  linarith

/-- The points of the grid of fifteen digits are farther apart than numbers are. -/
theorem unit_lt_step {m : Nat} (full : 2 ^ 52 ≤ m) (e : Int) :
    (2 : ℚ) ^ e < 10 ^ gridStep m e 15 := by
  obtain ⟨-, high⟩ := decade (show 0 < m by omega) e 15
  have decade : (10 : ℚ) ^ (gridStep m e 15 + (15 : Nat)) = 10 ^ 15 * 10 ^ gridStep m e 15 := by
    rw [zpow_add₀ (by norm_num), zpow_natCast, mul_comm]
  have unit : (2 : ℚ) ^ 52 * 2 ^ e ≤ m * 2 ^ e := by
    gcongr
    exact_mod_cast full
  rw [decade] at high
  have step_pos : (0 : ℚ) < 10 ^ gridStep m e 15 := by positivity
  norm_num at unit high
  linarith

/-- The shortest decimal of a number is a decimal of at most fifteen digits that reads as the number,
if there is one. -/
theorem value_ofFinite (tie : DecimalTie) {m d : Nat} {e exponent : Int} (full : 2 ^ 52 ≤ m)
    (short : d < 10 ^ 15) (reads : Reads m e (d * 10 ^ exponent)) :
    (ofFinite tie m e).value = d * 10 ^ exponent := by
  have m_pos : 0 < m := by omega
  obtain ⟨c, multiple⟩ := exists_multiple d (gridStep_le full short reads)
  rw [multiple] at reads
  obtain ⟨hit, known⟩ := exists_onGrid? tie m_pos reads
  obtain ⟨j, j_le, r, answer, found⟩ :=
    exists_findSome?_range (f := fun k => onGrid? tie m e (k + 1)) (show 14 < 17 by decide) known
  obtain ⟨exponent_eq, passes, -⟩ := of_onGrid?_eq_some answer
  have r_reads : Reads m e r.value := by
    rw [value, exponent_eq]
    exact (inside_iff m_pos _ _).mp passes
  obtain ⟨c', multiple'⟩ := exists_multiple r.digits
    (show gridStep m e 15 ≤ gridStep m e (j + 1) by rw [gridStep, gridStep]; push_cast; omega)
  rw [← exponent_eq, ← value] at multiple'
  rw [multiple'] at r_reads
  have step_pos : (0 : ℚ) < 10 ^ gridStep m e 15 := by positivity
  have apart : |(m : ℚ) * 2 ^ e - c * 10 ^ gridStep m e 15| ≤ 2 ^ e / 2 := by
    rw [abs_sub_comm]
    exact reads.near
  have near : |(c' : ℚ) * 10 ^ gridStep m e 15 - c * 10 ^ gridStep m e 15| < 10 ^ gridStep m e 15 :=
    calc |(c' : ℚ) * 10 ^ gridStep m e 15 - c * 10 ^ gridStep m e 15|
        ≤ |(c' : ℚ) * 10 ^ gridStep m e 15 - m * 2 ^ e| +
          |(m : ℚ) * 2 ^ e - c * 10 ^ gridStep m e 15| := abs_sub_le _ _ _
      _ ≤ 2 ^ e / 2 + 2 ^ e / 2 := add_le_add r_reads.near apart
      _ = 2 ^ e := add_halves _
      _ < 10 ^ gridStep m e 15 := unit_lt_step full e
  rw [ofFinite, found, Option.getD_some, value_stripZeros, ← value, multiple', multiple,
    eq_of_near step_pos near]

/-- Seventeen digits suffice for every number. -/
theorem exists_onGrid?_seventeen (tie : DecimalTie) {m : Nat} {e : Int} (m_pos : 0 < m)
    (canonical : Canonical m e) : ∃ r, onGrid? tie m e 17 = some r := by
  obtain ⟨low, -⟩ := decade m_pos e 17
  obtain ⟨below, above⟩ := floor_spec m e (gridStep m e 17)
  have unit_pos : (0 : ℚ) < 2 ^ e := by positivity
  have step : (10 : ℚ) ^ 16 * 10 ^ gridStep m e 17 ≤ m * 2 ^ e := by
    refine le_of_eq_of_le ?_ low
    rw [← zpow_natCast, ← zpow_add₀ (by norm_num)]
    congr 1
    push_cast
    ring
  by_cases edge : m = Nat.pow 2 52 ∧ minExponent < e
  · -- Only a quarter of a unit below a power of two is read as it; the point above is near enough.
    have high : ((floor m e (gridStep m e 17) + 1 : Nat) : ℚ) * 10 ^ gridStep m e 17 <
        m * 2 ^ e + 2 ^ e / 2 := by
      have power : (m : ℚ) = 4503599627370496 := by exact_mod_cast edge.1
      push_cast
      rw [power] at below step ⊢
      norm_num at step
      linarith
    exact exists_onGrid? tie m_pos (.of_above above.le high)
  · have wide : gaps m e = (2, 2) := if_neg edge
    have short : (m : ℚ) * 2 ^ e < 2 ^ 53 * 2 ^ e := by
      gcongr
      exact_mod_cast canonical.short
    norm_num at step short
    push_cast at above
    -- One of the two points is at most half a step away.
    obtain less | more := lt_or_ge ((m : ℚ) * 2 ^ e)
      ((floor m e (gridStep m e 17) + 1 / 2) * 10 ^ gridStep m e 17)
    · exact exists_onGrid? tie m_pos (.of_below wide (by linarith) below)
    · refine exists_onGrid? (d := floor m e (gridStep m e 17) + 1) tie m_pos (.of_above ?_ ?_)
      · push_cast
        exact above.le
      · push_cast
        linarith

theorem floor_lt {m : Nat} (m_pos : 0 < m) (e : Int) (n : Nat) :
    floor m e (gridStep m e n) < 10 ^ n := by
  obtain ⟨-, high⟩ := decade m_pos e n
  obtain ⟨below, -⟩ := floor_spec m e (gridStep m e n)
  have bound := below.trans_lt high
  rw [zpow_add₀ (by norm_num), mul_comm, zpow_natCast] at bound
  exact_mod_cast lt_of_mul_lt_mul_left bound (by positivity)

/-- The decimal of a number reads as the number, and has at most seventeen digits. -/
theorem ofFinite_spec (tie : DecimalTie) {m : Nat} {e : Int} (m_pos : 0 < m)
    (canonical : Canonical m e) :
    Reads m e (ofFinite tie m e).value ∧
      ∃ (d : Nat) (exponent : Int), d < 10 ^ 17 ∧ (ofFinite tie m e).value = d * 10 ^ exponent := by
  obtain ⟨hit, known⟩ := exists_onGrid?_seventeen tie m_pos canonical
  obtain ⟨j, j_le, r, answer, found⟩ :=
    exists_findSome?_range (f := fun k => onGrid? tie m e (k + 1)) (show 16 < 17 by decide) known
  obtain ⟨exponent_eq, passes, digits_le⟩ := of_onGrid?_eq_some answer
  have value_eq : (ofFinite tie m e).value = r.digits * 10 ^ gridStep m e (j + 1) := by
    rw [ofFinite, found, Option.getD_some, value_stripZeros, exponent_eq]
  rw [value_eq]
  refine ⟨(inside_iff m_pos _ _).mp passes, ?_⟩
  have bound : r.digits ≤ 10 ^ 17 :=
    calc r.digits ≤ floor m e (gridStep m e (j + 1)) + 1 := digits_le
      _ ≤ 10 ^ (j + 1) := floor_lt m_pos e (j + 1)
      _ ≤ 10 ^ 17 := Nat.pow_le_pow_right (by decide) (by omega)
  obtain less | same := bound.lt_or_eq
  · exact ⟨r.digits, _, less, rfl⟩
  · refine ⟨1, gridStep m e (j + 1) + 17, by decide, ?_⟩
    rw [same, zpow_add₀ (by norm_num)]
    push_cast
    ring

theorem digits_stripZeros_pos (fuel : Nat) {n : Nat} (positive : 0 < n) (e : Int) :
    0 < (stripZeros fuel n e).digits := by
  induction fuel generalizing n e with
  | zero => exact positive
  | succ fuel ih =>
    rw [stripZeros]
    split
    · exact ih (by omega) _
    · exact positive

theorem digits_ofFinite_pos (tie : DecimalTie) {m : Nat} (m_pos : 0 < m) (e : Int) :
    0 < (ofFinite tie m e).digits := by
  refine digits_stripZeros_pos _ ?_ _
  cases found : (List.range 17).findSome? fun k => onGrid? tie m e (k + 1) with
  | none => exact m_pos
  | some r =>
    obtain ⟨k, -, answer⟩ := List.exists_of_findSome?_eq_some found
    obtain ⟨-, passes, -⟩ := of_onGrid?_eq_some answer
    have positive := ((inside_iff m_pos _ _).mp passes).pos m_pos
    exact_mod_cast pos_of_mul_pos_left positive (by positivity)

/-- The leading digit of a decimal has the exponent that is computed for it. -/
theorem leading_spec {d : ShortDecimal} (positive : 0 < d.digits) :
    (10 : ℚ) ^ d.leading ≤ d.value ∧ d.value < 10 ^ (d.leading + 1) := by
  obtain ⟨k, width_eq, low, high⟩ := width_bounds positive
  have low : (10 : ℚ) ^ k ≤ d.digits := by exact_mod_cast low
  have high : (d.digits : ℚ) < 10 ^ (k + 1) := by exact_mod_cast high
  have step_pos : (0 : ℚ) < 10 ^ d.exponent := by positivity
  rw [leading, width_eq, value]
  push_cast
  rw [show d.exponent + (k + 1) - 1 = k + d.exponent by ring,
    show k + d.exponent + 1 = ((k + 1 : Nat) : Int) + d.exponent by push_cast; ring,
    zpow_add₀ (by norm_num), zpow_add₀ (by norm_num), zpow_natCast, zpow_natCast]
  exact ⟨by gcongr, by gcongr⟩

end ShortDecimal
end EntityFilter
