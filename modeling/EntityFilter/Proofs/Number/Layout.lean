import EntityFilter.Number.Layout
import EntityFilter.Proofs.DecimalText
import EntityFilter.Proofs.Number.Shortest

/-!
What the text of a number says.  Laid out positionally, the digits of a decimal spell its value; with
an exponent there is a letter in the text.
-/

namespace EntityFilter.FloatLayout

open Text Value

/-- Digits whose first one has exponent `p`, laid out with a point in every case. -/
theorem positional_spells {f : FloatLayout} (keeps : f.keepsPoint = true) {ds : List Char}
    (nonempty : ds ≠ []) (digits : ∀ c ∈ ds, c.isDigit = true) (p : Int) :
    Spells (f.positional ds p) (digitsValue ds * 10 ^ (p + 1 - ds.length)) := by
  have zeros : ∀ n, ∀ c ∈ List.replicate n '0', c.isDigit = true :=
    fun n c member => List.eq_of_mem_replicate member ▸ rfl
  unfold positional
  split
  · obtain ⟨k, rfl⟩ : ∃ k : Nat, p = -k - 1 := ⟨(-p - 1).toNat, by omega⟩
    have count : (-(-(k : Int) - 1) - 1).toNat = k := by omega
    have lead : ['0'] ++ List.replicate k '0' = List.replicate (k + 1) '0' := rfl
    rw [count]
    refine spells_point (List.cons_ne_nil '0' []) (zeros 1) (by simp [nonempty])
      (List.forall_mem_append.mpr ⟨zeros k, digits⟩) ?_
    rw [← List.append_assoc, lead, digitsValue_append, digitsValue_replicate, Nat.mul_zero,
      Nat.zero_add, List.length_append, List.length_replicate, div_eq_mul_inv, ← zpow_natCast,
      ← zpow_neg]
    congr 2
    push_cast
    ring
  · rename_i large
    obtain ⟨k, rfl⟩ := Int.eq_ofNat_of_zero_le (not_lt.mp large)
    simp only [Int.toNat_natCast]
    split
    · have last : digitsValue ['0'] = 0 := rfl
      have count : (k : Int) + 1 - ds.length = (k + 1 - ds.length : Nat) := by omega
      refine spells_point (by simp [nonempty]) (List.forall_mem_append.mpr ⟨digits, zeros _⟩)
        (List.cons_ne_nil '0' []) (zeros 1) ?_
      rw [digitsValue_append, digitsValue_append, digitsValue_replicate, last, count,
        zpow_natCast, List.length_replicate, List.length_singleton]
      push_cast
      ring
    · rename_i long
      refine spells_point (by simp [nonempty]) (fun c member => digits c (List.mem_of_mem_take member))
        (by simpa using long) (fun c member => digits c (List.mem_of_mem_drop member)) ?_
      rw [List.take_append_drop, List.length_drop, div_eq_mul_inv, ← zpow_natCast, ← zpow_neg]
      congr 2
      omega

theorem layOut_spells {d : ShortDecimal} (range : -5 ≤ d.leading ∧ d.leading < 16) :
    Spells (scientific.layOut d) d.value := by
  have laidOut : scientific.layOut d =
      scientific.positional (Nat.toDigits 10 d.digits) d.leading := by
    simp [layOut, scientific, range]
  have count : d.leading + 1 - (Nat.toDigits 10 d.digits).length = d.exponent := by
    rw [ShortDecimal.leading, ShortDecimal.width]
    ring
  have digits : ∀ c ∈ Nat.toDigits 10 d.digits, c.isDigit = true :=
    fun c => isDigit_of_mem_toDigits
  have spells := positional_spells (f := scientific) rfl Nat.toDigits_ne_nil digits d.leading
  rwa [count, digitsValue_toDigits, ← laidOut] at spells

theorem e_mem_layOut {d : ShortDecimal} (range : ¬(-5 ≤ d.leading ∧ d.leading < 16)) :
    'e' ∈ scientific.layOut d := by
  have laidOut : scientific.layOut d = exponential (Nat.toDigits 10 d.digits) d.leading := by
    simp [layOut, scientific, range]
  rw [laidOut, exponential]
  simp

/-- The text of a finite number without its sign. -/
def magnitudeText (m : Nat) (e : Int) : List Char :=
  if m = 0 then scientific.positional ['0'] 0
  else scientific.layOut (ShortDecimal.ofFinite .even m e)

theorem toList_write (negative : Bool) (m : Nat) (e : Int) :
    (scientific.write (.finite negative m e)).toList =
      if negative then '-' :: magnitudeText m e else magnitudeText m e :=
  String.toList_ofList

/-- The number that the digits spell which are found for a finite number. -/
def shown (m : Nat) (e : Int) : ℚ := if m = 0 then 0 else (ShortDecimal.ofFinite .even m e).value

/-- Magnitudes that are written without an exponent. -/
def IsPlain (q : ℚ) : Prop := q = 0 ∨ 1 / 10 ^ 5 ≤ q ∧ q < 10 ^ 16

theorem isPlain_value_iff {d : ShortDecimal} (positive : 0 < d.digits) :
    IsPlain d.value ↔ -5 ≤ d.leading ∧ d.leading < 16 := by
  obtain ⟨low, high⟩ := ShortDecimal.leading_spec positive
  have ten : (1 : ℚ) < 10 := by norm_num
  have value_pos : 0 < d.value := lt_of_lt_of_le (by positivity) low
  have least : (1 : ℚ) / 10 ^ 5 = 10 ^ (-5 : Int) := by norm_num
  have limit : (10 : ℚ) ^ 16 = 10 ^ (16 : Int) := by norm_num
  rw [IsPlain, or_iff_right value_pos.ne', least, limit]
  constructor
  · rintro ⟨above, below⟩
    have above := (zpow_lt_zpow_iff_right₀ ten).mp (above.trans_lt high)
    have below := (zpow_lt_zpow_iff_right₀ ten).mp (low.trans_lt below)
    exact ⟨by omega, below⟩
  · rintro ⟨above, below⟩
    exact ⟨((zpow_le_zpow_iff_right₀ ten).mpr above).trans low,
      high.trans_le ((zpow_le_zpow_iff_right₀ ten).mpr (by omega))⟩

/-- A number is written as the digits that are found for it, unless it takes an exponent. -/
theorem magnitudeText_spells {m : Nat} {e : Int} (plain : IsPlain (shown m e)) :
    Spells (magnitudeText m e) (shown m e) := by
  unfold magnitudeText shown at *
  split at plain
  · rename_i zero
    have digits : ∀ c ∈ ['0'], c.isDigit = true := List.forall_mem_singleton.mpr rfl
    have spells := positional_spells (f := scientific) rfl (List.cons_ne_nil _ _) digits 0
    have nothing : digitsValue ['0'] = 0 := rfl
    rw [nothing, Nat.cast_zero, zero_mul] at spells
    rwa [if_pos zero, if_pos zero]
  · rename_i nonzero
    rw [if_neg nonzero, if_neg nonzero]
    have positive := ShortDecimal.digits_ofFinite_pos .even (Nat.pos_of_ne_zero nonzero) e
    exact layOut_spells ((isPlain_value_iff positive).mp plain)

theorem e_mem_magnitudeText {m : Nat} {e : Int} (large : ¬IsPlain (shown m e)) :
    'e' ∈ magnitudeText m e := by
  unfold magnitudeText shown at *
  split at large
  · exact absurd (.inl rfl) large
  · rename_i nonzero
    rw [if_neg nonzero]
    have positive := ShortDecimal.digits_ofFinite_pos .even (Nat.pos_of_ne_zero nonzero) e
    exact e_mem_layOut (mt (isPlain_value_iff positive).mpr large)

/-- What is written of a finite number is the spelling of a decimal if it has no exponent, and then
spells the digits that are found for the number. -/
theorem denotes_write_iff {negative : Bool} {m : Nat} {e : Int} {q : ℚ} :
    Denotes (scientific.write (.finite negative m e)) q ↔
      IsPlain (shown m e) ∧ q = signed negative (shown m e) := by
  constructor
  · intro denotes
    by_cases plain : IsPlain (shown m e)
    · have spelled := (magnitudeText_spells plain).denotes (toList_write negative m e)
      exact ⟨plain, denotes.2.symm.trans spelled.2⟩
    · have letter : 'e' ∈ (scientific.write (.finite negative m e)).toList := by
        rw [toList_write]
        split
        · exact List.mem_cons_of_mem _ (e_mem_magnitudeText plain)
        · exact e_mem_magnitudeText plain
      rcases of_mem_literal denotes.1 letter with sign | point | digit
      · cases sign
      · cases point
      · cases digit
  · rintro ⟨plain, rfl⟩
    exact (magnitudeText_spells plain).denotes (toList_write negative m e)

end EntityFilter.FloatLayout
