import EntityFilter.Proofs.Calendar
import EntityFilter.Proofs.Json.Scalar
import EntityFilter.Proofs.Kinds

/-!
Values read back from their JSON.  Whatever spelling a scalar had, its written form is accepted for
the same kind and means the same value.  Instants are the exception: near the ends of the years of
four digits, UTC may have a year that timestamps cannot have.
-/

namespace EntityFilter

namespace Guid

theorem length_writeGroups {n : Nat} {ns : List Nat} {cs : List Char}
    (h : cs.length = (n :: ns).sum) : (writeGroups (n :: ns) cs).length = cs.length + ns.length := by
  induction ns generalizing n cs with
  | nil => rfl
  | cons m ns ih =>
    have whole : cs.length = n + (m :: ns).sum := by rw [h, List.sum_cons]
    have tail : (cs.drop n).length = (m :: ns).sum := by
      rw [List.length_drop]
      omega
    have rest := ih tail
    rw [writeGroups, List.length_append, List.length_cons, rest, List.length_take,
      List.length_drop, List.length_cons]
    · omega
    · simp

/-- Digits in groups are read as those digits. -/
theorem readGroups?_writeGroups {n : Nat} {ns : List Nat} {cs : List Char}
    (h : cs.length = (n :: ns).sum) : readGroups? (n :: ns) (writeGroups (n :: ns) cs) = some cs := by
  induction ns generalizing n cs with
  | nil =>
    rw [List.sum_singleton] at h
    rw [writeGroups, readGroups?, if_pos h]
  | cons m ns ih =>
    have whole : cs.length = n + (m :: ns).sum := by rw [h, List.sum_cons]
    have tail : (cs.drop n).length = (m :: ns).sum := by
      rw [List.length_drop]
      omega
    have rest := ih tail
    have first : (cs.take n).length = n := List.length_take_of_le (by omega)
    rw [writeGroups, readGroups?, List.drop_left' first, List.take_left' first]
    · simp only [rest, Option.map_some, List.take_append_drop]
    · simp
    · simp

theorem toLower_of_isLowerHex {c : Char} (h : isLowerHex c = true) : c.toLower = c := by
  refine dif_neg fun ⟨low, high⟩ => ?_
  have upper : 65 ≤ c.toNat ∧ c.toNat ≤ 90 :=
    ⟨UInt32.le_iff_toNat_le.mp low, UInt32.le_iff_toNat_le.mp high⟩
  rw [isLowerHex, Bool.or_eq_true, Bool.and_eq_true, decide_eq_true_eq, decide_eq_true_eq] at h
  rcases h with digit | ⟨above, -⟩
  · have below : c.toNat ≤ 57 := (Char.isDigit_iff_toNat.mp digit).2
    omega
  · have above : 97 ≤ c.toNat := UInt32.le_iff_toNat_le.mp above
    omega

theorem read?_write (g : Guid) : read? g.write = some g := by
  have length : g.digits.length = groups.sum := g.length_eq
  have read : readGroups? groups g.write = some g.digits := readGroups?_writeGroups length
  have long : g.write.length = 36 := by
    rw [write, groups, length_writeGroups length, g.length_eq]
    rfl
  have lower : g.digits.map Char.toLower = g.digits := by
    refine (List.map_congr_left fun c member => ?_).trans (List.map_id' _)
    exact toLower_of_isLowerHex (List.all_eq_true.mp g.all_hex c member)
  have own : ofDigits? g.digits = some g := by
    simp [ofDigits?, lower, g.length_eq, g.all_hex]
  simp [read?, long, readHyphenated?, read, own]

end Guid

namespace Value

theorem int64?_toInt (i : Int64) : int64? (.integer i.toInt) = some i := by
  have low := i.le_toInt
  have high := i.toInt_lt
  rw [int64?, if_pos (by omega), Int64.ofInt_toInt]

/-- The JSON of a value that is no floating-point number is a scalar. -/
theorem scalar_toJson {v : Value} (h : ∀ x, v ≠ .float x) : v.toJson.Scalar := by
  cases v with
  | null => exact .null
  | text s | decimal s => exact .string s
  | integer i =>
    have low := i.le_toInt
    have high := i.toInt_lt
    exact .integer (by omega) (by omega)
  | float x => exact absurd rfl (h x)
  | boolean b => exact .bool b
  | date | dateTime | guid => exact .string _

theorem ofScalar?_toJson {kind : Kind}
    (exact : kind ≠ .float ∧ kind ≠ .decimal ∧ kind ≠ .dateTime) {j : Json} {v : Value}
    (accepted : ofScalar? kind j = some v) : ofScalar? kind v.toJson = some v := by
  unfold ofScalar? at accepted
  split at accepted
  case h_5 n =>
    obtain ⟨i, -, rfl⟩ := Option.map_eq_some_iff.mp accepted
    simp [ofScalar?, toJson, int64?_toInt]
  case h_10 s =>
    obtain ⟨d, -, rfl⟩ := Option.map_eq_some_iff.mp accepted
    simp [ofScalar?, toJson, toString, Date.read?_write]
  case h_12 s =>
    obtain ⟨g, -, rfl⟩ := Option.map_eq_some_iff.mp accepted
    simp [ofScalar?, toJson, toString, Guid.read?_write]
  case h_6 | h_7 | h_8 | h_11 => simp at exact
  all_goals
    cases accepted
    try rfl

theorem isNull_toJson {v : Value} (notNull : v ≠ .null) (h : ∀ x, v ≠ .float x) :
    v.toJson.isNull = false := by
  cases v with
  | null => exact absurd rfl notNull
  | float x => exact absurd rfl (h x)
  | _ => rfl

/-- Null is read for every kind, and of the values of a kind only a float may be written as null. -/
theorem ofScalar?_ne_null {kind : Kind} {j : Json} {v : Value} (h : ofScalar? kind j = some v) :
    v ≠ .null ∧ (kind ≠ .float → ∀ x, v ≠ .float x) := by
  unfold ofScalar? at h
  split at h
  case h_5 | h_10 | h_11 | h_12 =>
    obtain ⟨_, -, rfl⟩ := Option.map_eq_some_iff.mp h
    simp
  case h_8 =>
    split at h
    · cases h
      simp
    · cases h
  all_goals
    cases h
    try simp

/-- A value of a kind of text, an integer, a boolean, a date or a guid fits its kind, and the JSON
text of the value is read as that value, however the value was spelled when it was accepted. -/
theorem accepted_scalar_reads_back {kind : Kind}
    (scalar : kind ∈ [Kind.text, .fixedText, .ansiText, .ansiFixedText, .integer, .boolean, .date,
      .guid])
    {j : Json} {v : Value} (accepted : ofJson kind j = .ok v) :
    (v = .null ∨ v.fits kind = true) ∧
      ∃ j', (Json.Document.ofText v.toJson.compact).value? = some j' ∧ ofJson kind j' = .ok v := by
  have exact : kind ≠ .float ∧ kind ≠ .decimal ∧ kind ≠ .dateTime := by
    revert scalar
    cases kind <;> decide
  refine ⟨.inr (fits_of_ofJson accepted), v.toJson, ?_⟩
  obtain ⟨-, rfl⟩ | ⟨-, bindable, spelled⟩ := ofJson_eq_ok.mp accepted
  · exact ⟨Json.Scalar.null.value?_ofText, rfl⟩
  · obtain ⟨notNull, noFloat⟩ := ofScalar?_ne_null spelled
    refine ⟨(scalar_toJson (noFloat exact.1)).value?_ofText, ofJson_eq_ok.mpr (.inr ?_)⟩
    exact ⟨isNull_toJson notNull (noFloat exact.1), bindable, ofScalar?_toJson exact spelled⟩

/-- A date with white space before it, a sign, and a month and day of one digit. -/
theorem accepted_scalar_reads_back_short_date :
    ∃ d : Date, ofJson .date (.string " +12024-2-9") = .ok (.date d) ∧
      (Value.date d).toJson.compact = "\"+12024-02-09\"" ∧
      (Value.date d = .null ∨ (Value.date d).fits .date = true) ∧
      ∃ j', (Json.Document.ofText (Value.date d).toJson.compact).value? = some j' ∧
        ofJson .date j' = .ok (.date d) := by
  have accepted : ofJson .date (.string " +12024-2-9") =
      .ok (.date ⟨12024, 2, 9, by decide⟩) := by rfl
  exact ⟨_, accepted, by decide, accepted_scalar_reads_back (by decide) accepted⟩

/-- A timestamp is accepted as an instant, and the JSON text of the instant is a string.  The string
is read as that instant, unless the instant is in the last day before the years of four digits or
in the first day after them: the written year then has a sign, and the string is refused. -/
theorem timestamp_reads_back_iff {s : String} {v : Value}
    (accepted : ofJson .dateTime (.string s) = .ok v) :
    ∃ t : Instant, v = .dateTime t ∧
      (Json.Document.ofText v.toJson.compact).value? = some v.toJson ∧
      (ofJson .dateTime v.toJson = .ok v ↔ ¬t.OutOfYears) ∧
      (t.OutOfYears →
        ofJson .dateTime v.toJson = .error (.mismatch .dateTime v.toJson.compact)) := by
  obtain ⟨null, -⟩ | ⟨-, -, spelled⟩ := ofJson_eq_ok.mp accepted
  · cases null
  obtain ⟨t, read, rfl⟩ := Option.map_eq_some_iff.mp spelled
  obtain ⟨regular, years⟩ := Instant.of_read?_eq_some read
  have again : ofScalar? .dateTime (toJson (.dateTime t)) =
      (Instant.read? (t.write ['Z'])).map .dateTime := by
    simp [ofScalar?, toJson, Instant.toZulu]
  refine ⟨t, rfl, (scalar_toJson (by simp)).value?_ofText, ⟨?_, fun within => ?_⟩, fun outside => ?_⟩
  · intro back outside
    obtain ⟨null, -⟩ | ⟨-, -, spelled⟩ := ofJson_eq_ok.mp back
    · cases null
    · rw [again, Instant.read?_write_eq_none outside.not_four_digits] at spelled
      cases spelled
  · refine ofJson_eq_ok.mpr (.inr ⟨rfl, by decide, ?_⟩)
    rw [again, Instant.read?_write regular (years.resolve_right within)]
    rfl
  · have unread := again.trans
      (congrArg _ (Instant.read?_write_eq_none outside.not_four_digits))
    simp only [Option.map_none] at unread
    simp only [ofJson, unread]
    rfl

/-- A leap second with a fraction, at an offset of half an hour. -/
theorem timestamp_reads_back_iff_leap_second :
    ∃ t : Instant,
      ofJson .dateTime (.string "2017-01-01 05:29:60.25+05:30") = .ok (.dateTime t) ∧
      (Value.dateTime t).toJson.compact = "\"2016-12-31T23:59:60.250Z\"" ∧
      (Json.Document.ofText (Value.dateTime t).toJson.compact).value? =
        some (Value.dateTime t).toJson ∧
      ofJson .dateTime (Value.dateTime t).toJson = .ok (.dateTime t) := by
  have accepted : ofJson .dateTime (.string "2017-01-01 05:29:60.25+05:30") =
      .ok (.dateTime ⟨⟨2016, 12, 31, by decide⟩, 86399, 1250000000, by decide, by decide⟩) := by
    decide +kernel
  obtain ⟨t, same, read, back, -⟩ := timestamp_reads_back_iff accepted
  cases same
  exact ⟨_, accepted, by decide +kernel, read, back.mpr (by simp [Instant.OutOfYears])⟩

/-- Two instants that UTC puts out of the years of four digits, and what is written of them. -/
theorem timestamp_not_read_back :
    ∃ t t' : Instant,
      ofJson .dateTime (.string "0000-01-01T00:00:00+00:01") = .ok (.dateTime t) ∧
      (Value.dateTime t).toJson.compact = "\"-0001-12-31T23:59:00Z\"" ∧
      ofJson .dateTime (Value.dateTime t).toJson =
        .error (.mismatch .dateTime "\"-0001-12-31T23:59:00Z\"") ∧
      ofJson .dateTime (.string "9999-12-31T23:59:59.5-00:01") = .ok (.dateTime t') ∧
      (Value.dateTime t').toJson.compact = "\"+10000-01-01T00:00:59.500Z\"" ∧
      ofJson .dateTime (Value.dateTime t').toJson =
        .error (.mismatch .dateTime "\"+10000-01-01T00:00:59.500Z\"") := by
  refine ⟨⟨⟨-1, 12, 31, by decide⟩, 86340, 0, by decide, by decide⟩,
    ⟨⟨10000, 1, 1, by decide⟩, 59, 500000000, by decide, by decide⟩, ?_⟩
  decide +kernel

end Value

end EntityFilter
