import EntityFilter.Proofs.Settings

/-!
What appending a filter answers.  Of all that stands against it, the answer names what comes first in
a fixed order; it depends on the statement only through whether that has a dialect.
-/

namespace EntityFilter

namespace FieldFilter

variable {f : FieldFilter} {e : FilterError}

/-- Every criterion passes the check against its field. -/
def Sound (f : FieldFilter) : Prop := ∀ p ∈ f.demands, p.2.check p.1 = .ok ()

/-- The first field, in the order of the fields, whose criterion fails its check fails it with
`e`. -/
def FirstFault (f : FieldFilter) (e : FilterError) : Prop :=
  ∃ before p after, f.demands = before ++ p :: after ∧
    (∀ q ∈ before, q.2.check q.1 = .ok ()) ∧ p.2.check p.1 = .error e

theorem validate_eq_ok_iff : f.validate = .ok () ↔ f.Sound := by
  rw [validate_eq, forM_eq_ok]
  rfl

theorem validate_eq_error_iff : f.validate = .error e ↔ f.FirstFault e := by
  rw [validate_eq, forM_eq_error]
  rfl

end FieldFilter

namespace Filter

/-- A search whose words were not set, or are white space only. -/
def Wordless : Filter → Prop
  | field _ => False
  | freeText f => f.terms = none ∨
      ∃ terms, f.terms = some terms ∧ ∀ c ∈ terms.toList, Text.isBlank c = true

/-- A search in no columns. -/
def Columnless : Filter → Prop
  | field _ => False
  | freeText f => f.searchFields.fields = []

/-- The answer that is due to appending a filter, when the statement has a dialect or has none.  What
stands first in the order of these cases is answered, though more may stand against the append. -/
inductive Due (f : Filter) (dialect : Bool) : Except FilterError Unit → Prop
  | emitted (h : f.isEmitted = true) : Due f dialect (.error .alreadyEmitted)
  | wordless (fresh : f.isEmitted = false) (h : f.Wordless) :
      Due f dialect (.error .missingSearchTerms)
  | detached (fresh : f.isEmitted = false) (worded : ¬f.Wordless) (h : dialect = false) :
      Due f dialect (.error .missingDialect)
  | columnless (fresh : f.isEmitted = false) (worded : ¬f.Wordless) (attached : dialect = true)
      (h : f.Columnless) : Due f dialect (.error .noSearchableFields)
  | faulty (fresh : f.isEmitted = false) (worded : ¬f.Wordless) (attached : dialect = true)
      (searched : ¬f.Columnless) {e : FilterError} (h : f.base.FirstFault e) :
      Due f dialect (.error e)
  | accepted (fresh : f.isEmitted = false) (worded : ¬f.Wordless) (attached : dialect = true)
      (searched : ¬f.Columnless) (h : f.base.Sound) : Due f dialect (.ok ())

theorem lacksWords_iff {f : Filter} : f.lacksWords = true ↔ f.Wordless := by
  cases f with
  | field f => simp [lacksWords, Wordless]
  | freeText f =>
    rw [lacksWords, Wordless, FreeTextFilter.searchTerms?]
    cases f.terms with
    | none => simp
    | some terms => simp [Text.isAllBlank]

theorem lacksColumns_iff {f : Filter} : f.lacksColumns = true ↔ f.Columnless := by
  cases f <;> simp [lacksColumns, Columnless, FieldSet.isEmpty]

theorem due_result (f : Filter) (s : Statement) :
    f.Due s.dialect.isSome (f.append s).result := by
  rw [result_append]
  by_cases emitted : f.isEmitted = true
  · rw [if_pos emitted]
    exact .emitted emitted
  have fresh : f.isEmitted = false := Bool.eq_false_iff.mpr emitted
  rw [if_neg emitted]
  by_cases wordless : f.lacksWords = true
  · rw [if_pos wordless]
    exact .wordless fresh (lacksWords_iff.mp wordless)
  have worded : ¬f.Wordless := mt lacksWords_iff.mpr wordless
  rw [if_neg wordless]
  cases s.dialect with
  | none => exact .detached fresh worded rfl
  | some d =>
    rw [Option.isNone_some, if_neg Bool.false_ne_true, Option.isSome_some]
    by_cases columnless : f.lacksColumns = true
    · rw [if_pos columnless]
      exact .columnless fresh worded rfl (lacksColumns_iff.mp columnless)
    have searched : ¬f.Columnless := mt lacksColumns_iff.mpr columnless
    rw [if_neg columnless]
    cases checked : f.base.validate with
    | ok =>
      exact .accepted fresh worded rfl searched (FieldFilter.validate_eq_ok_iff.mp checked)
    | error e =>
      exact .faulty fresh worded rfl searched (FieldFilter.validate_eq_error_iff.mp checked)

/-- Nothing but the answer is due. -/
theorem Due.result_eq {f : Filter} {s : Statement} {answer : Except FilterError Unit}
    (h : f.Due s.dialect.isSome answer) : (f.append s).result = answer := by
  rw [result_append]
  cases h with
  | emitted h => rw [if_pos h]
  | wordless fresh h =>
    rw [fresh, if_neg Bool.false_ne_true, if_pos (lacksWords_iff.mpr h)]
  | detached fresh worded h =>
    rw [fresh, if_neg Bool.false_ne_true, if_neg (mt lacksWords_iff.mp worded),
      Option.isSome_eq_false_iff.mp h, if_pos rfl]
  | columnless fresh worded attached h =>
    rw [fresh, if_neg Bool.false_ne_true, if_neg (mt lacksWords_iff.mp worded),
      Option.isNone_eq_false_iff.mpr attached, if_neg Bool.false_ne_true,
      if_pos (lacksColumns_iff.mpr h)]
  | faulty fresh worded attached searched h =>
    rw [fresh, if_neg Bool.false_ne_true, if_neg (mt lacksWords_iff.mp worded),
      Option.isNone_eq_false_iff.mpr attached, if_neg Bool.false_ne_true,
      if_neg (mt lacksColumns_iff.mp searched), FieldFilter.validate_eq_error_iff.mpr h]
  | accepted fresh worded attached searched h =>
    rw [fresh, if_neg Bool.false_ne_true, if_neg (mt lacksWords_iff.mp worded),
      Option.isNone_eq_false_iff.mpr attached, if_neg Bool.false_ne_true,
      if_neg (mt lacksColumns_iff.mp searched), FieldFilter.validate_eq_ok_iff.mpr h]

/-- What becomes of a new filter: it is configured, and appended whole or its base alone. -/
inductive Reachable : Filter → Prop
  | newField (e : Entity) : Reachable (field (.new e))
  | newFreeText (e : Entity) : Reachable (freeText (.new e))
  | configured {f g : Filter} (reached : Reachable f) {c : FreeTextFilter.Setting}
      (set : f.configure c = .ok g) : Reachable g
  | appended {f : Filter} (reached : Reachable f) (s : Statement) (p : Part) :
      Reachable (f.appendPart s p).filter

theorem Reachable.of_tried {f : Filter} (h : f.Reachable) (cs : List FreeTextFilter.Setting) :
    (tried configure f cs).Reachable :=
  tried_keeps (fun _ _ _ reached set => reached.configured set) h cs

/-- The same filter, with its criteria kept in any order. -/
def Reordered (f g : Filter) : Prop :=
  ∃ criteria, criteria.Perm f.base.criteria ∧ g = f.setBase { f.base with criteria }

/-- A setting leaves the base of a filter, or is one of the base. -/
theorem base_configure_cases {f g : Filter} {c : FreeTextFilter.Setting}
    (h : f.configure c = .ok g) : g.base = f.base ∨ ∃ b, f.base.configure b = .ok g.base := by
  cases f with
  | field f =>
    cases c with
    | base c =>
      obtain ⟨b, set, rfl⟩ := map_eq_ok.mp h
      exact .inr ⟨c, set⟩
    | addField | addAllTextFields | setTerms =>
      cases h
      exact .inl rfl
  | freeText f =>
    obtain ⟨g, set, rfl⟩ := map_eq_ok.mp h
    rcases FreeTextFilter.of_configure_eq_ok set with
      ⟨b, base, settled, rfl⟩ | ⟨fs, -, rfl⟩ | ⟨terms, rfl⟩
    · exact .inr ⟨b, settled⟩
    · exact .inl rfl
    · exact .inl rfl

theorem criteria_setAppended (f : Filter) (b : Bool) (p : Part) :
    (f.setAppended b p).base.criteria = f.base.criteria := by
  cases f <;> cases p <;> rfl

/-- No column of a filter has two criteria. -/
theorem Reachable.distinct {f : Filter} (h : f.Reachable) :
    (f.base.criteria.map Prod.fst).Nodup := by
  induction h with
  | newField e => exact List.nodup_nil
  | newFreeText e => exact List.nodup_nil
  | configured _ set ih =>
    rcases base_configure_cases set with same | ⟨c, set⟩
    · rw [same]
      exact ih
    · exact FieldFilter.nodup_keys_configure ih set
  | @appended f _ s p ih =>
    obtain ⟨e, refused⟩ | ⟨t, accepted⟩ := f.appendPart_cases s p
    · rw [refused]
      exact ih
    · rw [accepted, criteria_setAppended]
      exact ih

theorem Reordered.result_eq {f g : Filter} (h : f.Reordered g)
    (distinct : (f.base.criteria.map Prod.fst).Nodup) (s : Statement) :
    (g.append s).result = (f.append s).result := by
  obtain ⟨criteria, same, rfl⟩ := h
  have checks : FieldFilter.validate { f.base with criteria } = f.base.validate :=
    FieldFilter.validate_congr rfl fun column =>
      (lookup_congr_of_perm same.symm distinct column).symm
  rw [result_append, result_append, ← checks]
  cases f <;> rfl

/-- An append answers what stands first against it.  No more of the statement counts than whether it
has a dialect, and it does not count in which order the criteria are kept. -/
theorem append_answers_first (f : Filter) (s : Statement) :
    (∀ answer, (f.append s).result = answer ↔ f.Due s.dialect.isSome answer) ∧
    (∀ t : Statement, t.dialect.isSome = s.dialect.isSome →
      (f.append t).result = (f.append s).result) ∧
    (f.Reachable → ∀ g, f.Reordered g → (g.append s).result = (f.append s).result) := by
  refine ⟨fun answer => ⟨?_, Due.result_eq⟩, fun t same => ?_, fun reached g h => ?_⟩
  · rintro rfl
    exact f.due_result s
  · apply Due.result_eq
    rw [same]
    exact f.due_result s
  · exact h.result_eq reached.distinct s

/-- A search whose base has two faults, that on the later field being stated first. -/
theorem append_answers_first_two_faults :
    ∃ (f g : Filter) (s t : Statement), f.Reachable ∧ f.Reordered g ∧
      f.base.criteria.map Prod.fst = ["photo", "age"] ∧
      g.base.criteria.map Prod.fst = ["age", "photo"] ∧
      s.dialect ≠ t.dialect ∧ s.fragments = [] ∧ t.fragments = ["deleted = 0"] ∧
      (f.append s).result = .error (.unsupportedFieldKind "Age" .integer .patternMatch) ∧
      (f.append t).result = (f.append s).result ∧ (g.append s).result = (f.append s).result := by
  let e : Entity := ⟨"Widget", "widgets",
    [⟨"Name", "name", .text⟩, ⟨"Age", "age", .integer⟩, ⟨"Photo", "photo", .binary⟩]⟩
  let name : Like := .startsWith "red"
  let cs : List FreeTextFilter.Setting := [.base (.addField "Age"),
    .base (.setCriterion "Photo" (.like name)), .base (.setCriterion "Age" (.like name)),
    .addAllTextFields, .setTerms "red"]
  let f := tried configure (freeText (.new e)) cs
  let criteria : List (String × Criterion) := [("age", .like name), ("photo", .like name)]
  let g := f.setBase { f.base with criteria }
  let s : Statement := .new .postgres
  let t : Statement := (Statement.new .mysql).pushFragment "deleted = 0"
  have reached : f.Reachable := (Reachable.newFreeText e).of_tried cs
  have reordered : f.Reordered g := ⟨criteria, .swap _ _ [], rfl⟩
  obtain ⟨answers, anywhere, anyhow⟩ := append_answers_first f s
  refine ⟨f, g, s, t, reached, reordered, rfl, rfl, by decide, rfl, rfl, ?_, anywhere t rfl,
    anyhow reached g reordered⟩
  refine (answers _).mpr (.faulty rfl ?_ rfl ?_ ?_)
  · intro wordless
    exact absurd (lacksWords_iff.mpr wordless) (by decide +kernel)
  · intro columnless
    exact absurd (lacksColumns_iff.mpr columnless) (by decide)
  · have demands : f.base.demands = [(⟨"Age", "age", .integer⟩, .like name),
        (⟨"Photo", "photo", .binary⟩, .like name)] := by
      decide
    exact ⟨[], _, _, demands, List.forall_mem_nil _, rfl⟩

end Filter
end EntityFilter
