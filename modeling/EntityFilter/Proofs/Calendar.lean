import EntityFilter.Calendar.Instant
import EntityFilter.Proofs.Digits

/-!
The written form of a date is read as that date, in every year of the calendar.  The written form of
an instant is read as that instant in the years of four digits, and in no other year.
-/

namespace EntityFilter

open Text

theorem daysInMonth_le (year : Int) (month : Nat) : daysInMonth year month ≤ 31 := by
  unfold daysInMonth
  split
  · split <;> omega
  · split <;> omega

namespace Date

theorem month_lt (d : Date) : d.month < 10 ^ 2 := by
  have := d.civil.2.1.2
  omega

theorem day_lt (d : Date) : d.day < 10 ^ 2 := by
  have := d.civil.2.2.2
  have := daysInMonth_le d.year d.month
  omega

/-- A year that is written with a sign or in four digits is read as that year. -/
theorem readYear?_writeYear (year : Int) {rest : List Char}
    (ends : Json.Ends (·.isDigit = false) rest) :
    readYear? (writeYear year ++ rest) = some (year, rest) := by
  unfold writeYear
  split
  · rename_i short
    obtain ⟨c, cs, spelled, digit⟩ := exists_padded_eq_cons 4 year.toNat
    have fits : year.toNat < 10 ^ 4 := by omega
    have read := readNumber?_padded (by decide) fits rest
    have unsigned : readYear? (padded 4 year.toNat ++ rest) =
        (readNumber? (some 4) (padded 4 year.toNat ++ rest)).map
          fun taken => ((taken.1 : Int), taken.2) := by
      rw [spelled]
      unfold readYear?
      split
      · rename_i first
        cases first
        simp at digit
      · rename_i first
        cases first
        simp at digit
      · rfl
    simp only [unsigned, read, Option.map_some, Option.some.injEq, Prod.mk.injEq, and_true]
    omega
  · have read := readNumber?_none_padded 4 year.natAbs ends
    split
    · simp only [List.cons_append, readYear?, read, Option.map_some, Option.some.injEq,
        Prod.mk.injEq, and_true]
      omega
    · simp only [List.cons_append, readYear?, read, Option.map_some, Option.some.injEq,
        Prod.mk.injEq, and_true]
      omega

theorem trimStart_writeYear (year : Int) (rest : List Char) :
    trimStart (writeYear year ++ rest) = writeYear year ++ rest := by
  unfold writeYear
  split
  · exact trimStart_padded 4 _ rest
  · split
    · exact trimStart_cons (by decide) _
    · exact trimStart_cons (by decide) _

theorem read?_write (d : Date) : read? d.write = some d := by
  have ends : Json.Ends (·.isDigit = false)
      ('-' :: (padded 2 d.month ++ '-' :: (padded 2 d.day ++ []))) := by simp [Json.Ends]
  have year := readYear?_writeYear d.year ends
  have month := readNumber?_padded (by decide) d.month_lt ('-' :: (padded 2 d.day ++ []))
  have day := readNumber?_padded (by decide) d.day_lt []
  have written : d.write =
      writeYear d.year ++ '-' :: (padded 2 d.month ++ '-' :: (padded 2 d.day ++ [])) := by
    simp [write]
  rw [read?, written, trimStart_writeYear, year]
  simp only [Option.bind_eq_bind, Option.bind_some, expect?, if_true, trimStart_padded, month, day,
    List.isEmpty_nil, ofCivil?_self]

theorem of_ofCivil?_eq_some {year : Int} {month day : Nat} {d : Date}
    (h : ofCivil? year month day = some d) : d.year = year ∧ d.month = month ∧ d.day = day := by
  unfold ofCivil? at h
  split at h
  · cases h
    exact ⟨rfl, rfl, rfl⟩
  · cases h

/-- The day before a date is in the same year, or it is the last of the year before. -/
theorem of_prev?_eq_some {d d' : Date} (h : d.prev? = some d') :
    d'.year = d.year ∨ d'.year = d.year - 1 ∧ d'.month = 12 ∧ d'.day = 31 := by
  unfold prev? at h
  split at h
  · exact .inl (of_ofCivil?_eq_some h).1
  · split at h
    · exact .inl (of_ofCivil?_eq_some h).1
    · exact .inr (of_ofCivil?_eq_some h)

/-- The day after a date is in the same year, or it is the first of the year after. -/
theorem of_next?_eq_some {d d' : Date} (h : d.next? = some d') :
    d'.year = d.year ∨ d'.year = d.year + 1 ∧ d'.month = 1 ∧ d'.day = 1 := by
  unfold next? at h
  split at h
  · exact .inl (of_ofCivil?_eq_some h).1
  · split at h
    · exact .inl (of_ofCivil?_eq_some h).1
    · exact .inr (of_ofCivil?_eq_some h)

end Date

namespace Instant

/-- A leap second is the last second of its minute. -/
def Regular (t : Instant) : Prop := 1000000000 ≤ t.nano → t.second % 60 = 59

/-- The written fraction of a second is empty, or a point and a number of digits that gives as many
nanoseconds. -/
theorem writeFraction_cases {nano : Nat} (h : nano < 1000000000) :
    nano = 0 ∧ writeFraction nano = [] ∨
      ∃ width n, 0 < width ∧ width ≤ 9 ∧ n < 10 ^ width ∧ n * 10 ^ (9 - width) = nano ∧
        writeFraction nano = '.' :: padded width n := by
  unfold writeFraction
  split
  · exact .inl ⟨‹_›, rfl⟩
  · refine .inr ?_
    split
    · exact ⟨3, nano / 1000000, by decide, by decide, by omega, by omega, rfl⟩
    · split
      · exact ⟨6, nano / 1000, by decide, by decide, by omega, by omega, rfl⟩
      · exact ⟨9, nano, by decide, by decide, by omega, by omega, rfl⟩

/-- A time of day that is written with a leap second in its last second only is read as that
time. -/
theorem readTime?_write {second nano leap : Nat} (inDay : second < 86400)
    (nano_lt : nano < 1000000000) (leap_le : leap ≤ 1) (regular : leap = 1 → second % 60 = 59)
    {rest : List Char} (ends : Json.Ends (fun c => c.isDigit = false ∧ c ≠ '.') rest) :
    readTime? (padded 2 (second / 3600) ++ ':' :: (padded 2 (second / 60 % 60) ++
      ':' :: (padded 2 (second % 60 + leap) ++ (writeFraction nano ++ rest)))) =
        some (second, leap * 1000000000 + nano, rest) := by
  have hour := readFixed?_padded (by decide) (show second / 3600 < 10 ^ 2 by omega)
  have minute := readFixed?_padded (by decide) (show second / 60 % 60 < 10 ^ 2 by omega)
  have last := readFixed?_padded (by decide) (show second % 60 + leap < 10 ^ 2 by omega)
  have leaps : (second % 60 + leap) / 60 = leap := by omega
  have whole : 3600 * (second / 3600) + 60 * (second / 60 % 60) +
      (second % 60 + leap - leap) = second := by omega
  have valid : second / 3600 < 24 ∧ second / 60 % 60 < 60 ∧ second % 60 + leap < 61 := by omega
  simp only [readTime?, hour, minute, last, expect?, Option.bind_eq_bind, Option.bind_some, if_true]
  obtain ⟨rfl, empty⟩ | ⟨width, n, positive, short, fits, value, spelled⟩ :=
    writeFraction_cases nano_lt
  · have none : ∀ cs, rest ≠ '.' :: cs := fun cs point => (ends '.' (by simp [point])).2 rfl
    rw [empty, List.nil_append]
    split
    · exact absurd rfl (none _)
    · simp only [if_pos valid, leaps, whole, Nat.add_zero]
  · have all : ∀ c ∈ padded width n, c.isDigit := fun c => isDigit_of_mem_padded
    have digits := Json.spanDigits_append all (ends.mono fun _ h => h.1)
    have counted : (padded width n).take 9 = padded width n :=
      List.take_of_length_le (by rw [length_padded positive fits]; exact short)
    rw [spelled, List.cons_append]
    simp only [digits, List.isEmpty_eq_false_iff.mpr (padded_ne_nil width n), Bool.false_eq_true,
      if_false, if_pos valid, leaps, whole, counted, digitsValue_padded,
      length_padded positive fits, Nat.pow_eq, value]

theorem ofSeconds?_self (t : Instant) : ofSeconds? t.date t.second t.nano = some t := by
  have inDay : (t.second : Int) < 86400 := by
    have := t.second_lt
    omega
  have notBefore : ¬(t.second : Int) < 0 := by omega
  rw [ofSeconds?, if_neg notBefore, if_pos inDay]
  exact dif_pos ⟨t.second_lt, t.nano_lt⟩

/-- The written form of an instant in a year of four digits is read as that instant. -/
theorem read?_write {t : Instant} (regular : t.Regular)
    (short : 0 ≤ t.date.year ∧ t.date.year ≤ 9999) : read? (t.write ['Z']) = some t := by
  have leap_le : t.nano / 1000000000 ≤ 1 := by
    have := t.nano_lt
    omega
  have small : t.nano % 1000000000 < 1000000000 := Nat.mod_lt _ (by decide)
  have ends : Json.Ends (fun c => c.isDigit = false ∧ c ≠ '.') ['Z'] := by simp [Json.Ends]
  have time := readTime?_write t.second_lt small leap_le (fun leap => regular (by omega)) ends
  have nano : t.nano / 1000000000 * 1000000000 + t.nano % 1000000000 = t.nano := by omega
  have year := readFixed?_padded (by decide) (show t.date.year.toNat < 10 ^ 4 by omega)
  have month := readFixed?_padded (by decide) t.date.month_lt
  have day := readFixed?_padded (by decide) t.date.day_lt
  have written : t.write ['Z'] = padded 4 t.date.year.toNat ++ '-' :: (padded 2 t.date.month ++
      '-' :: (padded 2 t.date.day ++ 'T' :: (padded 2 (t.second / 3600) ++
        ':' :: (padded 2 (t.second / 60 % 60) ++
          ':' :: (padded 2 (t.second % 60 + t.nano / 1000000000) ++
            (writeFraction (t.nano % 1000000000) ++ ['Z'])))))) := by
    simp [write, Date.write, Date.writeYear, short]
  have named : ((t.date.year.toNat : Nat) : Int) = t.date.year := Int.toNat_of_nonneg short.1
  rw [nano] at time
  simp only [read?, written, year, month, day, time, expect?, Option.bind_eq_bind,
    Option.bind_some, if_true, true_or, readOffset?, named]
  rw [Date.ofCivil?_self, Option.bind_some, if_pos List.isEmpty_nil, Int.sub_zero, ofSeconds?_self]

/-- In any other year the written form is not read: the year has a sign. -/
theorem read?_write_eq_none {t : Instant} (long : ¬(0 ≤ t.date.year ∧ t.date.year ≤ 9999)) :
    read? (t.write ['Z']) = none := by
  obtain ⟨sign, cs, written, noDigit⟩ : ∃ sign cs, t.write ['Z'] = sign :: cs ∧
      sign.isDigit = false := by
    rw [write, Date.write, Date.writeYear, if_neg long]
    refine ⟨_, _, rfl, ?_⟩
    split <;> rfl
  have unread : readFixed? 4 (sign :: cs) = none := by
    simp [readFixed?, spanDigits, noDigit]
  rw [read?, written, unread]
  rfl

/-- The days on which UTC leaves the years of four digits. -/
def OutOfYears (t : Instant) : Prop :=
  t.date.year = -1 ∧ t.date.month = 12 ∧ t.date.day = 31 ∨
    t.date.year = 10000 ∧ t.date.month = 1 ∧ t.date.day = 1

theorem OutOfYears.not_four_digits {t : Instant} (h : t.OutOfYears) :
    ¬(0 ≤ t.date.year ∧ t.date.year ≤ 9999) := by
  rw [OutOfYears] at h
  omega

/-- Counting seconds from a date leads to a day next to it at most, and keeps the second of the
minute when whole minutes are taken off. -/
theorem of_ofSeconds?_eq_some {date : Date} {second nano : Nat} {offset : Int} {t : Instant}
    (minutes : offset % 60 = 0) (short : offset < 86400)
    (h : ofSeconds? date ((second : Int) - offset) nano = some t) :
    t.nano = nano ∧ t.second % 60 = second % 60 ∧
      (date = t.date ∨ date.prev? = some t.date ∨ date.next? = some t.date) := by
  have found : ∀ (day? : Option Date) (n : Nat),
      (day?.bind fun d => if h : n < 86400 ∧ nano < 2000000000 then
        some (⟨d, n, nano, h.1, h.2⟩ : Instant) else none) = some t →
      day? = some t.date ∧ t.second = n ∧ t.nano = nano := by
    intro day? n h
    obtain ⟨d, rfl, h⟩ := Option.bind_eq_some_iff.mp h
    split at h
    · cases h
      exact ⟨rfl, rfl, rfl⟩
    · cases h
  unfold ofSeconds? at h
  by_cases before : (second : Int) - offset < 0
  · rw [if_pos before] at h
    obtain ⟨day, same, nanos⟩ := found _ _ h
    exact ⟨nanos, by omega, .inr (.inl day)⟩
  · rw [if_neg before] at h
    by_cases within : (second : Int) - offset < 86400
    · rw [if_pos within] at h
      obtain ⟨day, same, nanos⟩ := found _ _ h
      exact ⟨nanos, by omega, .inl (Option.some.inj day)⟩
    · rw [if_neg within] at h
      obtain ⟨day, same, nanos⟩ := found _ _ h
      exact ⟨nanos, by omega, .inr (.inr day)⟩

/-- Nine digits of a fraction count nanoseconds. -/
theorem fraction_lt {ds : List Char} (digits : ∀ c ∈ ds, c.isDigit) (short : ds.length ≤ 9) :
    digitsValue ds * Nat.pow 10 (9 - ds.length) < 1000000000 := by
  calc digitsValue ds * 10 ^ (9 - ds.length)
      < 10 ^ ds.length * 10 ^ (9 - ds.length) :=
        Nat.mul_lt_mul_of_pos_right (digitsValue_lt digits) (Nat.pow_pos (by decide))
    _ = 10 ^ 9 := by rw [← Nat.pow_add, Nat.add_sub_cancel' short]

/-- A second with a billion nanoseconds or more is the last one of its minute: there the text had a
second of 60. -/
theorem of_readTime?_eq_some {cs rest : List Char} {second nano : Nat}
    (h : readTime? cs = some (second, nano, rest)) (leap : 1000000000 ≤ nano) :
    second % 60 = 59 := by
  simp only [readTime?, Option.bind_eq_bind, Option.bind_eq_some_iff] at h
  obtain ⟨⟨hour, cs₁⟩, -, cs₂, -, ⟨minute, cs₃⟩, -, cs₄, -, ⟨s, cs₅⟩, -, h⟩ := h
  have parts : ∃ fraction, fraction < 1000000000 ∧ s < 61 ∧
      3600 * hour + 60 * minute + (s - s / 60) = second ∧ s / 60 * 1000000000 + fraction = nano := by
    split at h
    · rename_i digits point
      have all : ∀ c ∈ (spanDigits none digits).1.take 9, c.isDigit :=
        fun c member => List.mem_takeWhile_imp (List.mem_of_mem_take member)
      have counted := fraction_lt all (List.length_take_le 9 _)
      split at h
      · cases h
      · simp only [Option.bind_some] at h
        split at h
        · rename_i valid
          simp only [Option.some.injEq, Prod.mk.injEq] at h
          exact ⟨_, counted, valid.2.2, h.1, h.2.1⟩
        · cases h
    · simp only [Option.bind_some] at h
      split at h
      · rename_i valid
        simp only [Option.some.injEq, Prod.mk.injEq] at h
        exact ⟨0, by decide, valid.2.2, h.1, h.2.1⟩
      · cases h
  obtain ⟨fraction, small, valid, rfl, rfl⟩ := parts
  obtain rfl : s = 60 := by omega
  omega

/-- An offset has whole minutes, and they are fewer than those of a day. -/
theorem of_readOffset?_eq_some {cs rest : List Char} {offset : Int}
    (h : readOffset? cs = some (offset, rest)) : offset % 60 = 0 ∧ offset < 86400 := by
  unfold readOffset? at h
  split at h
  · cases h
    decide
  · cases h
    decide
  · simp only [Option.bind_eq_bind, Option.bind_eq_some_iff] at h
    obtain ⟨⟨negative, cs₁⟩, -, ⟨hours, cs₂⟩, -, cs₃, -, ⟨minutes, cs₄⟩, -, h⟩ := h
    split at h
    · simp only [Option.some.injEq, Prod.mk.injEq] at h
      obtain ⟨rfl, -⟩ := h
      split <;> omega
    · cases h

/-- What is read is regular, and UTC leaves the years of four digits by one day at most. -/
theorem of_read?_eq_some {cs : List Char} {t : Instant} (h : read? cs = some t) :
    t.Regular ∧ (0 ≤ t.date.year ∧ t.date.year ≤ 9999 ∨ t.OutOfYears) := by
  simp only [read?, Option.bind_eq_bind, Option.bind_eq_some_iff] at h
  obtain ⟨⟨year, cs₁⟩, four, cs₂, -, ⟨month, cs₃⟩, -, cs₄, -, ⟨day, cs₅⟩, -, h⟩ := h
  obtain ⟨cs₆, second, nano, cs₇, time, offset, zone, date, named, moved⟩ :
      ∃ cs₆ second nano cs₇, readTime? cs₆ = some (second, nano, cs₇) ∧
        ∃ offset, readOffset? cs₇ = some (offset, []) ∧ ∃ date,
          Date.ofCivil? year month day = some date ∧
            ofSeconds? date ((second : Int) - offset) nano = some t := by
    split at h
    · rename_i c rest _
      split at h
      · simp only [Option.bind_eq_some_iff] at h
        obtain ⟨_, ⟨⟩, ⟨second, nano, cs₇⟩, time, ⟨offset, cs₈⟩, zone, date, named, h⟩ := h
        split at h
        · rename_i whole
          obtain rfl : cs₈ = [] := List.isEmpty_iff.mp whole
          exact ⟨rest, second, nano, cs₇, time, offset, zone, date, named, h⟩
        · cases h
      · cases h
    · cases h
  obtain ⟨minutes, short⟩ := of_readOffset?_eq_some zone
  obtain ⟨rfl, sameSecond, place⟩ := of_ofSeconds?_eq_some minutes short moved
  refine ⟨fun leap => sameSecond.trans (of_readTime?_eq_some time leap), ?_⟩
  have years : 0 ≤ date.year ∧ date.year ≤ 9999 := by
    have := lt_of_readFixed?_eq_some four
    have := (Date.of_ofCivil?_eq_some named).1
    omega
  rw [OutOfYears]
  rcases place with same | before | after
  · exact .inl (same ▸ years)
  · have := Date.of_prev?_eq_some before
    omega
  · have := Date.of_next?_eq_some after
    omega

end Instant
end EntityFilter
