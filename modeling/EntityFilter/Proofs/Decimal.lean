import EntityFilter.Proofs.Json.Scalar
import EntityFilter.Proofs.Kinds
import EntityFilter.Proofs.Number.Layout

/-!
Decimals from JSON.  A string that is accepted as a decimal is kept as it is.  A number is kept as it
is written again, so what its literal says may be lost: integers of 64 bits are kept, and so are
numbers of at most fifteen digits that are written without an exponent.
-/

namespace EntityFilter

open Text FloatLayout Value

namespace Json.NumberLiteral

/-- The number that the digits of a literal spell, without their point. -/
def digits (l : NumberLiteral) : Nat := digitsValue (l.whole ++ l.fraction.getD [])

/-- The power of ten by which the digits are scaled. -/
def scale (l : NumberLiteral) : Int := l.exponent.getD 0 - (l.fraction.getD []).length

def magnitude (l : NumberLiteral) : ℚ := l.digits * 10 ^ l.scale

/-- The rational number that is written. -/
def rational (l : NumberLiteral) : ℚ := signed l.negative l.magnitude

/-- The literal is an integer of 64 bits, with a sign or without one. -/
def IsInteger (l : NumberLiteral) : Prop :=
  l.fraction = none ∧ l.exponent = none ∧
    (if l.negative then l.digits ≤ 2 ^ 63 else l.digits < 2 ^ 64)

/-- Digits that spell a number of 64 bits are taken up whole. -/
theorem takeDigits_all {ds : List Char} {n : Nat} (short : Nat.ofDigitChars 10 ds n < 2 ^ 64) :
    takeDigits n ds = (Nat.ofDigitChars 10 ds n, []) := by
  induction ds generalizing n with
  | nil => rfl
  | cons c ds ih =>
    have next : Nat.ofDigitChars 10 (c :: ds) n = Nat.ofDigitChars 10 ds (10 * n + digitValue c) :=
      rfl
    rw [next] at short ⊢
    rw [takeDigits, ← ih short]
    exact if_pos ((le_ofDigitChars _ _).trans_lt short)

/-- A literal whose digits fit 64 bits is rounded and then scaled. -/
theorem float?_eq {l : NumberLiteral} (short : l.digits < 2 ^ 64) :
    l.float? = (scale? 4 (.ofNat false l.digits) l.scale).map (Binary64.withSign l.negative) := by
  have split : l.digits = Nat.ofDigitChars 10 (l.fraction.getD []) (digitsValue l.whole) :=
    Nat.ofDigitChars_append 0
  rw [split] at short ⊢
  have whole : takeDigits 0 l.whole = (digitsValue l.whole, []) :=
    takeDigits_all ((le_ofDigitChars _ _).trans_lt short)
  have shift : ((0 : Nat) : Int) - ((l.fraction.getD []).length - 0 : Nat) + l.exponent.getD 0 =
      l.scale := by
    rw [scale]
    omega
  simp only [float?, whole, takeDigits_all short, List.length_nil, shift]

/-- Few digits that are written without an exponent are scaled by a small power of ten. -/
theorem scale_bounds {l : NumberLiteral} (positive : 0 < l.digits) (short : l.digits < 10 ^ 15)
    (range : 1 / 10 ^ 5 ≤ l.magnitude ∧ l.magnitude < 10 ^ 16) : -22 ≤ l.scale ∧ l.scale ≤ 22 := by
  have positive : (1 : ℚ) ≤ l.digits := by exact_mod_cast positive
  have short : (l.digits : ℚ) ≤ 10 ^ 15 := by exact_mod_cast short.le
  have power : (0 : ℚ) < 10 ^ l.scale := by positivity
  have ten : (1 : ℚ) < 10 := by norm_num
  obtain ⟨low, high⟩ := range
  rw [magnitude] at low high
  constructor
  · rw [← zpow_le_zpow_iff_right₀ ten]
    have product := low.trans (mul_le_mul_of_nonneg_right short power.le)
    norm_num at product ⊢
    linarith
  · rw [← zpow_le_zpow_iff_right₀ ten]
    have product := (le_mul_of_one_le_left power.le positive).trans_lt high
    norm_num at product ⊢
    linarith

/-- Scaling by a small power of ten rounds the product or quotient once. -/
theorem exists_scale? {m : Nat} {e scale : Int} (m_pos : 0 < m) (down : -22 ≤ scale)
    (up : scale ≤ 22) :
    ∃ num den : Nat, 0 < num ∧ 0 < den ∧ (num : ℚ) / den = m * 2 ^ e * 10 ^ scale ∧
      ∀ y, Binary64.ofQuotient false num den = y → y.isInfinite = false →
        scale? 4 (.finite false m e) scale = some y := by
  by_cases sign : 0 ≤ scale
  · obtain ⟨n, rfl⟩ := Int.eq_ofNat_of_zero_le sign
    obtain ⟨num, den, num_pos, den_pos, scaled, value⟩ :=
      Binary64.timesPowerOfTen_eq false (e := e) m_pos (show n ≤ 22 by omega)
    refine ⟨num, den, num_pos, den_pos, by rw [value, zpow_natCast], fun y rounded finite => ?_⟩
    rw [scale?, if_pos (by omega), if_pos sign, Int.toNat_natCast, scaled, rounded]
    simp [finite]
  · obtain ⟨n, rfl⟩ : ∃ n : Nat, scale = -n := ⟨(-scale).toNat, by omega⟩
    obtain ⟨num, den, num_pos, den_pos, scaled, value⟩ :=
      Binary64.overPowerOfTen_eq false (e := e) m_pos (show n ≤ 22 by omega)
    refine ⟨num, den, num_pos, den_pos, ?_, fun y rounded _ => ?_⟩
    · rw [value, zpow_neg, zpow_natCast, div_eq_mul_inv]
    · rw [scale?, if_pos (by omega), if_neg sign, neg_neg, Int.toNat_natCast, scaled, rounded]

/-- A literal of few digits that are written without an exponent is read as a number that reads what
is written. -/
theorem exists_float {l : NumberLiteral} (positive : 0 < l.digits) (short : l.digits < 10 ^ 15)
    (range : 1 / 10 ^ 5 ≤ l.magnitude ∧ l.magnitude < 10 ^ 16) :
    ∃ m e, l.float? = some (.finite l.negative m e) ∧ 2 ^ 52 ≤ m ∧ Reads m e l.magnitude := by
  obtain ⟨down, up⟩ := scale_bounds positive short range
  obtain ⟨m₀, e₀, whole, same⟩ :=
    Binary64.ofNat_exact false positive (short.trans (by decide)) (Nat.zero_le 900)
  rw [pow_zero, Nat.mul_one] at whole same
  obtain ⟨num, den, num_pos, den_pos, value, scaled⟩ :=
    exists_scale? (Binary64.pos_of_ofNat positive whole) down up
  rw [same, ← magnitude] at value
  rw [← value] at range ⊢
  have low : (2 : ℚ) ^ (-1000 : Int) ≤ num / den :=
    calc (2 : ℚ) ^ (-1000 : Int) ≤ 2 ^ (-20 : Int) := by gcongr <;> norm_num
      _ ≤ 1 / 10 ^ 5 := by norm_num
      _ ≤ num / den := range.1
  have high : (num : ℚ) / den < 2 ^ (1000 : Int) :=
    calc (num : ℚ) / den < 10 ^ 16 := range.2
      _ ≤ 2 ^ (60 : Int) := by norm_num
      _ ≤ 2 ^ (1000 : Int) := by gcongr <;> norm_num
  obtain ⟨m, e, rounded, -, full, reads⟩ :=
    Binary64.ofQuotient_normal false num_pos den_pos low high
  refine ⟨m, e, ?_, full, reads⟩
  rw [float?_eq (short.trans (by decide)), whole, scaled _ rounded rfl]
  rfl

/-- However it is scaled, zero stays zero. -/
theorem of_scale?_zero {fuel : Nat} {scale : Int} {y : Binary64}
    (h : scale? (fuel + 1) (.finite false 0 Binary64.minExponent) scale = some y) :
    y = .finite false 0 Binary64.minExponent := by
  have zero : (Binary64.finite false 0 Binary64.minExponent).isZero = true := rfl
  rw [scale?, Binary64.overPowerOfTen_zero, if_pos zero] at h
  split at h
  · split at h
    · obtain same | infinite :=
        Binary64.timesPowerOfTen_zero false scale.toNat Binary64.minExponent
      · rw [same] at h
        exact (Option.some.inj h).symm
      · simp only [infinite, if_true] at h
        cases h
    · exact (Option.some.inj h).symm
  · exact (Option.some.inj h).symm

theorem float?_of_zero {l : NumberLiteral} (zero : l.digits = 0) {x : Binary64}
    (h : l.float? = some x) : x = .finite l.negative 0 Binary64.minExponent := by
  have short : l.digits < 2 ^ 64 := zero ▸ by decide
  have whole : Binary64.ofNat false l.digits = .finite false 0 Binary64.minExponent := by
    rw [zero]
    rfl
  rw [float?_eq short, whole] at h
  obtain ⟨y, scaled, rfl⟩ := Option.map_eq_some_iff.mp h
  rw [of_scale?_zero scaled]
  rfl

theorem formed_of_scale? {fuel : Nat} {scale : Int} {x y : Binary64} (formed : x.Formed)
    (h : scale? fuel x scale = some y) : y.Formed := by
  induction fuel generalizing x scale with
  | zero =>
    cases h
    exact formed
  | succ fuel ih =>
    rw [scale?] at h
    split at h
    · split at h
      · dsimp only at h
        split at h
        · cases h
        · cases h
          exact Binary64.formed_timesPowerOfTen formed _
      · cases h
        exact Binary64.formed_overPowerOfTen formed _
    · split at h
      · cases h
        exact formed
      · split at h
        · cases h
        · exact ih (Binary64.formed_overPowerOfTen formed _) h

/-- The number that a literal is read as is canonical. -/
theorem formed_of_float? {l : NumberLiteral} {x : Binary64} (h : l.float? = some x) :
    x.Formed := by
  obtain ⟨y, scaled, rfl⟩ := Option.map_eq_some_iff.mp h
  have whole := Binary64.formed_ofQuotient false
    (takeDigits (takeDigits 0 l.whole).1 (l.fraction.getD [])).1 one_pos
  exact Binary64.formed_withSign (formed_of_scale? whole scaled) l.negative

end Json.NumberLiteral

namespace Json

theorem signed_inj {negative : Bool} {q r : ℚ} : signed negative q = signed negative r ↔ q = r := by
  unfold signed
  split
  · exact neg_inj
  · exact Iff.rfl

/-- An integer is written as the decimal that it is. -/
theorem denotes_numeral (i : Int) : Denotes (toString i) i := by
  have digits : ∀ c ∈ Nat.toDigits 10 i.natAbs, c.isDigit = true := fun c => isDigit_of_mem_toDigits
  have spelled : (toString i).toList =
      if decide (i < 0) = true then '-' :: Nat.toDigits 10 i.natAbs
      else Nat.toDigits 10 i.natAbs := by
    rw [NumberLiteral.toList_numeral]
    simp only [decide_eq_true_eq]
  have denotes := (spells_whole Nat.toDigits_ne_nil digits).denotes spelled
  have value : signed (decide (i < 0)) i.natAbs = i := by
    unfold signed
    split
    · rename_i negative
      rw [Nat.cast_natAbs, abs_of_neg (of_decide_eq_true negative)]
      push_cast
      ring
    · rename_i positive
      rw [Nat.cast_natAbs, abs_of_nonneg (by simpa using positive)]
  rwa [digitsValue_toDigits, value] at denotes

namespace NumberLiteral

/-- A literal is read as the integer that it is, or as a floating-point number.  The only integer of
64 bits that is read as one of these is a zero with a sign. -/
theorem value?_cases {l : NumberLiteral} {n : Number} (h : l.value? = some n) :
    (l.IsInteger ∧ ∃ i : Int, n = .integer i ∧ l.rational = i) ∨
      (l.IsInteger → l.digits = 0) ∧ ∃ x, n = .float x ∧ l.float? = some x := by
  have whole : l.fraction = none → l.exponent = none →
      l.digits = digitsValue l.whole ∧ l.magnitude = digitsValue l.whole := by
    intro noFraction noExponent
    simp [magnitude, digits, scale, noFraction, noExponent]
  simp only [value?, Option.isNone_iff_eq_none] at h
  split at h
  · rename_i unsigned
    obtain ⟨noFraction, noExponent, sign, short⟩ := unsigned
    obtain ⟨digits_eq, magnitude_eq⟩ := whole noFraction noExponent
    cases h
    refine .inl ⟨⟨noFraction, noExponent, ?_⟩, _, rfl, ?_⟩
    · rw [sign, digits_eq]
      exact short
    · rw [rational, sign, magnitude_eq]
      rfl
  · rename_i notUnsigned
    split at h
    · rename_i negated
      obtain ⟨noFraction, noExponent, sign, -, short⟩ := negated
      obtain ⟨digits_eq, magnitude_eq⟩ := whole noFraction noExponent
      cases h
      refine .inl ⟨⟨noFraction, noExponent, ?_⟩, _, rfl, ?_⟩
      · rw [sign, digits_eq]
        exact short
      · rw [rational, sign, magnitude_eq]
        push_cast
        rfl
    · rename_i notNegated
      obtain ⟨x, read, rfl⟩ := Option.map_eq_some_iff.mp h
      refine .inr ⟨?_, x, rfl, read⟩
      rintro ⟨noFraction, noExponent, short⟩
      obtain ⟨digits_eq, -⟩ := whole noFraction noExponent
      rw [digits_eq] at short ⊢
      cases sign : l.negative with
      | true =>
        rw [sign] at short
        refine Nat.eq_zero_of_not_pos fun positive => ?_
        exact notNegated ⟨noFraction, noExponent, sign, positive, short⟩
      | false =>
        rw [sign] at short
        exact absurd ⟨noFraction, noExponent, sign, short⟩ notUnsigned

theorem sign_of_float? {l : NumberLiteral} {negative : Bool} {m : Nat} {e : Int}
    (h : l.float? = some (.finite negative m e)) : negative = l.negative := by
  obtain ⟨y, -, signed⟩ := Option.map_eq_some_iff.mp h
  cases y with
  | nan | infinity => cases signed
  | finite =>
    cases signed
    rfl

theorem exists_of_scanNumber {cs rest : List Char} {n : Number}
    (h : Node.scanNumber cs = (.number n, some rest)) :
    ∃ l, read? cs = some (l, rest) ∧ l.value? = some n := by
  rw [Node.scanNumber] at h
  split at h
  · rename_i l rest' read
    split at h
    · rename_i n' value
      cases h
      exact ⟨l, read, value⟩
    · cases h
  · cases h

/-- A zero is written as a zero, with its sign. -/
theorem denotes_of_zero {l : NumberLiteral} (zero : l.digits = 0) {x : Binary64}
    (h : l.float? = some x) : Denotes (Number.float x).write l.rational := by
  have nothing : shown 0 Binary64.minExponent = 0 := rfl
  rw [float?_of_zero zero h, rational, magnitude, zero, Nat.cast_zero, zero_mul]
  exact denotes_write_iff.mpr ⟨nothing ▸ .inl rfl, nothing ▸ rfl⟩

/-- A number of few digits that is written without an exponent is written as it is. -/
theorem denotes_of_short {l : NumberLiteral} (short : l.digits < 10 ^ 15)
    (plain : IsPlain l.magnitude) {x : Binary64} (h : l.float? = some x) :
    Denotes (Number.float x).write l.rational := by
  rcases Nat.eq_zero_or_pos l.digits with zero | positive
  · exact denotes_of_zero zero h
  · have magnitude_pos : 0 < l.magnitude := by
      rw [magnitude]
      positivity
    obtain ⟨m, e, read, full, reads⟩ :=
      exists_float positive short (plain.resolve_left magnitude_pos.ne')
    have found : shown m e = l.magnitude := by
      rw [shown, if_neg (by omega)]
      exact ShortDecimal.value_ofFinite .even full short reads
    cases read.symm.trans h
    exact denotes_write_iff.mpr ⟨found ▸ plain, found ▸ rfl⟩

/-- A number that is written as it is has no exponent, and at most seventeen digits. -/
theorem plain_of_denotes {l : NumberLiteral} {x : Binary64} (h : l.float? = some x)
    (denotes : Denotes (Number.float x).write l.rational) :
    IsPlain l.magnitude ∧ ∃ (d : Nat) (exponent : Int), d < 10 ^ 17 ∧
      l.magnitude = d * 10 ^ exponent := by
  have formed := formed_of_float? h
  cases x with
  | nan => exact absurd denotes.1 (by decide)
  | infinity negative => cases negative <;> exact absurd denotes.1 (by decide)
  | finite negative m e =>
    obtain ⟨plain, same⟩ := denotes_write_iff.mp denotes
    rw [sign_of_float? h, rational, signed_inj] at same
    rw [same]
    refine ⟨plain, ?_⟩
    rcases Nat.eq_zero_or_pos m with rfl | positive
    · exact ⟨0, 0, by decide, by simp [shown]⟩
    · obtain ⟨-, few⟩ := ShortDecimal.ofFinite_spec .even positive formed
      rwa [shown, if_neg positive.ne']

end NumberLiteral
end Json
namespace Value

/-- What is accepted as a decimal.  A string is kept as it is, and it is the spelling of a decimal.
A number is written again, wherever in a text it was read.  What is written says what was read if
the literal is an integer of 64 bits, or if it has at most fifteen digits and a magnitude that is
written without an exponent.  It cannot say what was read if the literal is no such integer and has
more than seventeen digits that count, or a magnitude that takes an exponent. -/
theorem accepted_decimal_exact {j : Json} {v : Value} (accepted : ofJson .decimal j = .ok v) :
    j = .null ∧ v = .null ∨
      (∃ s, j = .string s ∧ v = .decimal s ∧ isDecimalLiteral s = true) ∨
      ∃ n : Json.Number, j = .number n ∧ v = .decimal n.write ∧
        ∀ cs rest, Json.Node.scanNumber cs = (.number n, some rest) →
          ∃ l, Json.NumberLiteral.read? cs = some (l, rest) ∧
            (l.IsInteger → Denotes n.write l.rational) ∧
            (l.digits < 10 ^ 15 → IsPlain l.magnitude → Denotes n.write l.rational) ∧
            (Denotes n.write l.rational →
              l.IsInteger ∨ IsPlain l.magnitude ∧
                ∃ (d : Nat) (exponent : Int), d < 10 ^ 17 ∧ l.magnitude = d * 10 ^ exponent) := by
  obtain ⟨null, rfl⟩ | ⟨-, -, spelled⟩ := ofJson_eq_ok.mp accepted
  · cases j with
    | null => exact .inl ⟨rfl, rfl⟩
    | _ => cases null
  cases j with
  | string s =>
    rw [ofScalar?] at spelled
    split at spelled
    · rename_i literal
      cases spelled
      exact .inr (.inl ⟨s, rfl, rfl, literal⟩)
    · cases spelled
  | number n =>
    cases spelled
    refine .inr (.inr ⟨n, rfl, rfl, fun cs rest scanned => ?_⟩)
    obtain ⟨l, read, value⟩ := Json.NumberLiteral.exists_of_scanNumber scanned
    refine ⟨l, read, ?_⟩
    obtain ⟨integer, i, rfl, same⟩ | ⟨zero, x, rfl, read⟩ := Json.NumberLiteral.value?_cases value
    · have denotes : Denotes (toString i) l.rational := same ▸ Json.denotes_numeral i
      exact ⟨fun _ => denotes, fun _ _ => denotes, fun _ => .inl integer⟩
    · exact ⟨fun integer => Json.NumberLiteral.denotes_of_zero (zero integer) read,
        fun short plain => Json.NumberLiteral.denotes_of_short short plain read,
        fun denotes => .inr (Json.NumberLiteral.plain_of_denotes read denotes)⟩
  | _ => cases spelled

/-- A number with a sign and a zero that is dropped, in front of other text. -/
theorem accepted_decimal_exact_negative :
    ∃ n : Json.Number, ofJson .decimal (.number n) = .ok (.decimal "-0.3") ∧
      Json.Node.scanNumber "-0.30, 7".toList = (.number n, some ", 7".toList) ∧
      Denotes "-0.3" (-(3 / 10)) := by
  have written : (Json.Number.float (.finite true 5404319552844595 (-54))).write = "-0.3" := by
    decide +kernel
  have accepted : ofJson .decimal (.number (.float (.finite true 5404319552844595 (-54)))) =
      .ok (.decimal "-0.3") := by
    rw [← written]
    rfl
  have read : Json.NumberLiteral.read? "-0.30, 7".toList =
      some (⟨true, ['0'], some ['3', '0'], none⟩, ", 7".toList) := by
    decide +kernel
  have scanned : Json.Node.scanNumber "-0.30, 7".toList =
      (.number (.float (.finite true 5404319552844595 (-54))), some ", 7".toList) := by
    have value : Json.NumberLiteral.value? ⟨true, ['0'], some ['3', '0'], none⟩ =
        some (.float (.finite true 5404319552844595 (-54))) := by
      decide +kernel
    simp only [Json.Node.scanNumber, read, value]
  refine ⟨_, accepted, scanned, ?_⟩
  obtain ⟨null, -⟩ | ⟨s, string, -⟩ | ⟨n, same, -, kept⟩ := accepted_decimal_exact accepted
  · cases null
  · cases string
  · cases same
    obtain ⟨l, read', -, short, -⟩ := kept _ _ scanned
    cases read.symm.trans read'
    have digits : (⟨true, ['0'], some ['3', '0'], none⟩ : Json.NumberLiteral).digits = 30 := rfl
    have magnitude : (⟨true, ['0'], some ['3', '0'], none⟩ : Json.NumberLiteral).magnitude =
        3 / 10 := by
      rw [Json.NumberLiteral.magnitude, digits]
      norm_num [Json.NumberLiteral.scale]
    have plain : IsPlain (3 / 10) := .inr (by norm_num)
    have denotes := short (digits ▸ by decide) (magnitude ▸ plain)
    rwa [written, Json.NumberLiteral.rational, magnitude] at denotes

/-- A literal with too many digits before its point is written with an exponent, which is no
decimal; one with too many digits behind it is written as another decimal. -/
theorem decimal_not_exact :
    (∃ l n, Json.NumberLiteral.read? "12345678901234567.25".toList = some (l, []) ∧
      l.value? = some n ∧
      ofJson .decimal (.number n) = .ok (.decimal "1.2345678901234568e+16") ∧
      isDecimalLiteral "1.2345678901234568e+16" = false) ∧
    ∃ l n, Json.NumberLiteral.read? "0.12345678901234567890".toList = some (l, []) ∧
      l.value? = some n ∧
      ofJson .decimal (.number n) = .ok (.decimal "0.12345678901234568") ∧
      isDecimalLiteral "0.12345678901234568" = true ∧
      decimalNumber "0.12345678901234568" ≠ l.rational := by
  have large : (Json.Number.float (.finite false 6172839450617284 1)).write =
      "1.2345678901234568e+16" := by
    decide +kernel
  have long : (Json.Number.float (.finite false 8895999183877727 (-56))).write =
      "0.12345678901234568" := by
    decide +kernel
  refine ⟨⟨⟨false, "12345678901234567".toList, some "25".toList, none⟩,
      .float (.finite false 6172839450617284 1), by decide +kernel, by decide +kernel, ?_,
      by decide +kernel⟩,
    ⟨⟨false, "0".toList, some "12345678901234567890".toList, none⟩,
      .float (.finite false 8895999183877727 (-56)), by decide +kernel, by decide +kernel, ?_,
      by decide +kernel, ?_⟩⟩
  · rw [← large]
    rfl
  · rw [← long]
    rfl
  · have shown : decimalNumber "0.12345678901234568" = 12345678901234568 / 10 ^ 17 := by
      rfl
    have digits : (⟨false, "0".toList, some "12345678901234567890".toList, none⟩ :
        Json.NumberLiteral).digits = 12345678901234567890 := by
      decide +kernel
    have scale : (⟨false, "0".toList, some "12345678901234567890".toList, none⟩ :
        Json.NumberLiteral).scale = -20 := by
      decide +kernel
    rw [shown, Json.NumberLiteral.rational, Json.NumberLiteral.magnitude, digits, scale]
    norm_num [signed]

end Value
end EntityFilter
