import EntityFilter.Proofs.Typing

/-!
Which criteria there are for which kinds of field.  The table of support is stated here on its own,
with the precedence of the reasons for which a criterion is refused, and the check of a criterion is
held against it.  They agree but for lists of booleans.
-/

namespace EntityFilter

/-- A value is null, or of a type whose values fields of the kind have. -/
def Value.Suits (kind : Kind) : Value → Prop
  | null => True
  | text _ => kind ∈ [Kind.text, .fixedText, .ansiText, .ansiFixedText]
  | integer _ => kind ∈ [Kind.integer, .decimal, .float]
  | float _ => kind = .float
  | decimal _ => kind = .decimal
  | boolean _ => kind = .boolean
  | date _ => kind = .date
  | dateTime _ => kind = .dateTime
  | guid _ => kind = .guid

theorem Value.fits_iff_suits {kind : Kind} {v : Value} : v.fits kind = true ↔ v.Suits kind := by
  cases v with
  | text => cases kind <;> simp [fits, Suits, Kind.isTextual]
  | _ => simp [fits, Suits, or_assoc]

namespace Criterion

/-- A criterion that has no meaning for any kind of field, and why. -/
inductive Malformed : Criterion → CriterionDefect → Prop
  | ordering (op : Comparison) : Malformed (.compares op .null) .nullOrdering
  | lowBound (high : Value) : Malformed (.between .null high) .nullBound
  | highBound (low : Value) : Malformed (.between low .null) .nullBound
  | emptyList : Malformed (.among []) .emptyList
  | nullElement {values : List Value} (element : .null ∈ values) :
      Malformed (.among values) .nullInList

/-- The table of support: whether a form of criterion is available for fields of a kind. -/
def Available (kind : Kind) : Criterion → Prop
  | isNull | isNotNull => True
  | equals v | notEquals v => v = .null ∨ kind ≠ .binary
  | compares _ _ | between _ _ => kind ∉ [Kind.boolean, .guid, .binary]
  | among _ => kind ∉ [Kind.boolean, .binary]
  | like _ => kind ∈ [Kind.text, .fixedText, .ansiText, .ansiFixedText]

/-- Every value that a criterion compares with suits the kind of the field. -/
def Suited (kind : Kind) : Criterion → Prop
  | equals v | notEquals v | compares _ v => v.Suits kind
  | between low high => low.Suits kind ∧ high.Suits kind
  | among values => ∀ v ∈ values, v.Suits kind
  | like _ | isNull | isNotNull => True

/-- The outcome that is due to a criterion on a field.  What is wrong with the criterion itself
comes first, then a form that is not available for the kind, then a value that does not suit it. -/
inductive Judged (c : Criterion) (f : Field) : Except FilterError Unit → Prop
  | malformed {defect : CriterionDefect} (h : c.Malformed defect) :
      Judged c f (.error (.unsupportedCriterion f.name defect))
  | unavailable (sound : ∀ defect, ¬c.Malformed defect) (h : ¬c.Available f.kind) :
      Judged c f (.error (.unsupportedFieldKind f.name f.kind c.usage))
  | misfit {v : Value} (sound : ∀ defect, ¬c.Malformed defect) (available : c.Available f.kind)
      (h : ¬c.Suited f.kind) (value : v ∈ c.values) (unsuited : ¬v.Suits f.kind) :
      Judged c f (.error (.unsupportedCriterion f.name (.misfit v.typeName f.kind)))
  | accepted (sound : ∀ defect, ¬c.Malformed defect) (available : c.Available f.kind)
      (suited : c.Suited f.kind) : Judged c f (.ok ())

theorem Judged.eq_of_unavailable {c : Criterion} {f : Field} {answer : Except FilterError Unit}
    (h : Judged c f answer) (sound : ∀ defect, ¬c.Malformed defect)
    (unavailable : ¬c.Available f.kind) :
    answer = .error (.unsupportedFieldKind f.name f.kind c.usage) := by
  cases h with
  | malformed h => exact absurd h (sound _)
  | unavailable => rfl
  | misfit _ available => exact absurd available unavailable
  | accepted _ available => exact absurd available unavailable

/-- The criterion is a list for a field of booleans, and nothing is wrong with the list itself. -/
def ListsForBoolean (c : Criterion) (f : Field) : Prop :=
  f.kind = .boolean ∧ ∃ values, c = .among values ∧ values ≠ [] ∧ Value.null ∉ values

theorem defect?_eq_some_iff {c : Criterion} {defect : CriterionDefect} :
    c.defect? = some defect ↔ c.Malformed defect := by
  constructor
  · intro h
    cases c with
    | compares op v =>
      obtain ⟨null, rfl⟩ : v.isNull = true ∧ .nullOrdering = defect := by simpa [defect?] using h
      rw [Value.isNull_iff.mp null]
      exact .ordering op
    | between low high =>
      obtain ⟨null | null, rfl⟩ :
          (low.isNull = true ∨ high.isNull = true) ∧ .nullBound = defect := by
        simpa [defect?] using h
      · rw [Value.isNull_iff.mp null]
        exact .lowBound high
      · rw [Value.isNull_iff.mp null]
        exact .highBound low
    | among values =>
      rw [defect?] at h
      split at h
      · rename_i empty
        cases h
        rw [List.isEmpty_iff.mp empty]
        exact .emptyList
      · split at h
        · rename_i found
          cases h
          obtain ⟨v, element, null⟩ := List.any_eq_true.mp found
          exact .nullElement (Value.isNull_iff.mp null ▸ element)
        · cases h
    | _ => cases h
  · intro h
    cases h with
    | ordering | lowBound | emptyList => rfl
    | highBound low => simp [defect?, Value.isNull]
    | @nullElement values element =>
      have found : values.any Value.isNull = true := List.any_eq_true.mpr ⟨_, element, rfl⟩
      have nonempty : values.isEmpty = false := by
        cases values with
        | nil => cases element
        | cons => rfl
      simp [defect?, found, nonempty]

theorem defect?_eq_none_iff {c : Criterion} :
    c.defect? = none ↔ ∀ defect, ¬c.Malformed defect := by
  simp only [Option.eq_none_iff_forall_ne_some, ne_eq, defect?_eq_some_iff]

/-- One test decides on equality and on lists, so lists are supported for booleans, too. -/
theorem supports_iff {c : Criterion} {kind : Kind} :
    c.supports kind = true ↔
      c.Available kind ∨ kind = .boolean ∧ c.usage = .membership := by
  cases c with
  | equals v | notEquals v =>
    cases kind <;> simp [supports, Available, usage, Kind.isComparable, Value.isNull_iff]
  | compares | between => cases kind <;> simp [supports, Available, usage, Kind.isOrdered]
  | among => cases kind <;> simp [supports, Available, usage, Kind.isComparable]
  | like => cases kind <;> simp [supports, Available, usage, Kind.isTextual]
  | isNull | isNotNull => simp [supports, Available]

theorem suited_iff {c : Criterion} {kind : Kind} :
    c.Suited kind ↔ ∀ v ∈ c.values, v.Suits kind := by
  cases c <;> simp [Suited, values]

/-- What the check answers, in the order of its tests. -/
theorem check_cases (c : Criterion) (f : Field) :
    (∃ defect, c.Malformed defect ∧
      c.check f = .error (.unsupportedCriterion f.name defect)) ∨
    (∀ defect, ¬c.Malformed defect) ∧
      (c.supports f.kind = false ∧
          c.check f = .error (.unsupportedFieldKind f.name f.kind c.usage) ∨
        c.supports f.kind = true ∧
          ((∃ v ∈ c.values, ¬v.Suits f.kind ∧
              c.check f = .error (.unsupportedCriterion f.name (.misfit v.typeName f.kind))) ∨
            c.Suited f.kind ∧ c.check f = .ok ())) := by
  rw [check]
  split
  · rename_i defect found
    exact .inl ⟨defect, defect?_eq_some_iff.mp found, rfl⟩
  · rename_i sound
    refine .inr ⟨defect?_eq_none_iff.mp sound, ?_⟩
    split
    · rename_i supported
      refine .inr ⟨supported, ?_⟩
      split
      · rename_i v found
        have misfit : ¬v.fits f.kind = true := by simpa using List.find?_some found
        exact .inl ⟨v, List.mem_of_find?_eq_some found, mt Value.fits_iff_suits.mpr misfit, rfl⟩
      · rename_i none
        refine .inr ⟨suited_iff.mpr fun v member => Value.fits_iff_suits.mp ?_, rfl⟩
        simpa using List.find?_eq_none.mp none v member
    · rename_i unsupported
      exact .inl ⟨Bool.eq_false_iff.mpr unsupported, rfl⟩

/-- The check of a criterion comes to the outcome that is due to it, unless it is a list for a field
of booleans. -/
theorem check_judged_iff (c : Criterion) (f : Field) :
    Judged c f (c.check f) ↔ ¬c.ListsForBoolean f := by
  constructor
  · rintro judged ⟨boolean, values, rfl, nonempty, noNull⟩
    have unavailable : ¬(among values).Available f.kind := by
      rw [boolean]
      simp [Available]
    have sound : ∀ defect, ¬(among values).Malformed defect := by
      rintro _ (_ | _ | _ | _ | element)
      · exact nonempty rfl
      · exact noNull element
    have due := judged.eq_of_unavailable sound unavailable
    obtain ⟨defect, malformed, -⟩ | ⟨-, ⟨unsupported, -⟩ | ⟨-, found⟩⟩ :=
      check_cases (among values) f
    · exact sound defect malformed
    · rw [supports_iff.mpr (.inr ⟨boolean, rfl⟩)] at unsupported
      cases unsupported
    · obtain ⟨v, -, -, answer⟩ | ⟨-, answer⟩ := found
      · cases answer.symm.trans due
      · cases answer.symm.trans due
  · intro regular
    obtain ⟨defect, malformed, answer⟩ | ⟨sound, rest⟩ := check_cases c f
    · rw [answer]
      exact .malformed malformed
    obtain ⟨unsupported, answer⟩ | ⟨supported, rest⟩ := rest
    · rw [answer]
      refine .unavailable sound fun available => ?_
      rw [supports_iff.mpr (.inl available)] at unsupported
      cases unsupported
    have available : c.Available f.kind := by
      refine (supports_iff.mp supported).resolve_right fun ⟨boolean, membership⟩ => regular ?_
      cases c with
      | among values =>
        refine ⟨boolean, values, rfl, ?_, fun element => sound _ (.nullElement element)⟩
        rintro rfl
        exact sound _ .emptyList
      | _ => cases membership
    obtain ⟨v, value, unsuited, answer⟩ | ⟨suited, answer⟩ := rest
    · rw [answer]
      exact .misfit sound available (fun suited => unsuited (suited_iff.mp suited v value)) value
        unsuited
    · rw [answer]
      exact .accepted sound available suited

/-- A list of booleans passes the check, though the table has no lists for fields of booleans. -/
theorem boolean_list_passes :
    ∃ f : Field, f.kind = .boolean ∧ check (.among [.boolean true]) f = .ok () ∧
      ¬Judged (.among [.boolean true]) f (check (.among [.boolean true]) f) ∧
      Judged (.among [.boolean true]) f
        (.error (.unsupportedFieldKind f.name .boolean .membership)) := by
  have sound : ∀ defect, ¬(among [.boolean true]).Malformed defect := by
    rintro _ (_ | _ | _ | _ | element)
    cases List.mem_singleton.mp element
  have unavailable : ¬(among [.boolean true]).Available .boolean := by simp [Available]
  refine ⟨⟨"Active", "active", .boolean⟩, rfl, rfl, fun judged => ?_,
    .unavailable sound unavailable⟩
  cases judged.eq_of_unavailable sound unavailable

end Criterion
end EntityFilter
