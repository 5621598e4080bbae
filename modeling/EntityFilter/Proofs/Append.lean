import EntityFilter.Filter.Basic
import EntityFilter.Proofs.Emission
import EntityFilter.Proofs.Outcome

/-!
When filters can be appended, and what a statement is after that: the emission that begins on it
ends with the clause of the filter.
-/

namespace EntityFilter

/-- The emission that begins on a statement in a dialect. -/
def Statement.emission (s : Statement) (d : Dialect) : Emission :=
  { statement := s, dialect := d, counter := s.registry.counter }

theorem Statement.requireDialect_some {s : Statement} {d : Dialect} (h : s.dialect = some d) :
    s.requireDialect = .ok d := by
  rw [requireDialect, h]

theorem Statement.requireDialect_none {s : Statement} (h : s.dialect = none) :
    s.requireDialect = .error .missingDialect := by
  rw [requireDialect, h]

theorem Statement.begin_some {s : Statement} {d : Dialect} (h : s.dialect = some d) :
    s.begin = .ok (s.emission d) :=
  begin_eq_ok.mpr ⟨d, h, rfl⟩

/-- A check changes nothing. -/
@[simp] theorem Appending.run_check {F α : Type} (x : Except FilterError α) (a : F × Statement) :
    (check x : Appending F α).run a =
      match x with
      | .ok r => .ok r a
      | .error e => .error e a := by
  cases x <;> rfl

/-- What becomes of a field filter and a statement.  All checks come before the first change. -/
theorem FieldFilter.append_eq (f : FieldFilter) (s : Statement) :
    f.append s =
      if f.emitted then ⟨f, s, .error .alreadyEmitted⟩
      else match s.dialect, f.validate with
        | none, _ => ⟨f, s, .error .missingDialect⟩
        | some _, .error e => ⟨f, s, .error e⟩
        | some d, .ok () =>
          ⟨{ f with emitted := true }, (s.emission d).commitClause (f.clause d), .ok ()⟩ := by
  rw [append, Appending.on, emit]
  cases emitted : f.emitted with
  | true => simp [emitted]
  | false =>
    cases hd : s.dialect with
    | none => simp [emitted, Statement.requireDialect_none hd]
    | some d =>
      have required := Statement.requireDialect_some hd
      cases valid : f.validate with
      | error e => simp [emitted, required, valid]
      | ok => simp [emitted, required, valid, Statement.begin_some hd]

theorem FreeTextFilter.append_eq (f : FreeTextFilter) (s : Statement) :
    f.append s =
      if f.emitted then ⟨f, s, .error .alreadyEmitted⟩
      else match f.searchTerms?, s.dialect with
        | none, _ => ⟨f, s, .error .missingSearchTerms⟩
        | some _, none => ⟨f, s, .error .missingDialect⟩
        | some terms, some d =>
          if f.searchFields.isEmpty then ⟨f, s, .error .noSearchableFields⟩
          else match f.base.validate with
            | .error e => ⟨f, s, .error e⟩
            | .ok () => ⟨{ f with emitted := true },
                (s.emission d).commitClause (f.clause d terms), .ok ()⟩ := by
  rw [append, Appending.on, emit]
  cases emitted : f.emitted with
  | true => simp [emitted]
  | false =>
    cases said : f.searchTerms? with
    | none => simp [emitted, said]
    | some terms =>
      cases hd : s.dialect with
      | none => simp [emitted, said, Statement.requireDialect_none hd]
      | some d =>
        have required := Statement.requireDialect_some hd
        cases searched : f.searchFields.isEmpty with
        | true => simp [emitted, said, required, searched]
        | false =>
          cases valid : f.base.validate with
          | error e => simp [emitted, said, required, searched, valid]
          | ok => simp [emitted, said, required, searched, valid, Statement.begin_some hd]

/-- An append fails and changes nothing, or it ends the emission that begins on the statement. -/
theorem FieldFilter.append_cases (f : FieldFilter) (s : Statement) :
    (∃ e, f.append s = ⟨f, s, .error e⟩) ∨
      f.emitted = false ∧ f.validate = .ok () ∧ ∃ d, s.dialect = some d ∧
        f.append s =
          ⟨{ f with emitted := true }, (s.emission d).commitClause (f.clause d), .ok ()⟩ := by
  rw [append_eq]
  split
  · exact .inl ⟨_, rfl⟩
  · rename_i emitted
    split
    · exact .inl ⟨_, rfl⟩
    · exact .inl ⟨_, rfl⟩
    · rename_i d hd valid
      exact .inr ⟨Bool.eq_false_iff.mpr emitted, valid, d, hd, rfl⟩

theorem FreeTextFilter.append_cases (f : FreeTextFilter) (s : Statement) :
    (∃ e, f.append s = ⟨f, s, .error e⟩) ∨
      f.emitted = false ∧ f.searchFields.isEmpty = false ∧ f.base.validate = .ok () ∧
        ∃ terms d, f.searchTerms? = some terms ∧ s.dialect = some d ∧
          f.append s =
            ⟨{ f with emitted := true }, (s.emission d).commitClause (f.clause d terms), .ok ()⟩ := by
  rw [append_eq]
  split
  · exact .inl ⟨_, rfl⟩
  · rename_i emitted
    split
    · exact .inl ⟨_, rfl⟩
    · exact .inl ⟨_, rfl⟩
    · rename_i terms d said hd
      split
      · exact .inl ⟨_, rfl⟩
      · rename_i searched
        split
        · exact .inl ⟨_, rfl⟩
        · rename_i valid
          exact .inr ⟨Bool.eq_false_iff.mpr emitted, Bool.eq_false_iff.mpr searched, valid, terms,
            d, said, hd, rfl⟩

theorem FreeTextFilter.terms_of_searchTerms? {f : FreeTextFilter} {terms : String}
    (h : f.searchTerms? = some terms) : f.terms = some terms :=
  (Option.filter_eq_some_iff.mp h).1

namespace Filter

/-- The condition of a filter; it says which values are bound, and where they stand. -/
def clause (d : Dialect) : Filter → Clause
  | field f => f.clause d
  | freeText f => f.clause d (f.terms.getD "")

/-- What a filter must have before a dialect can say it. -/
def Complete : Filter → Prop
  | field f => f.validate = .ok ()
  | freeText f => f.searchTerms?.isSome ∧ f.searchFields.isEmpty = false ∧
      f.base.validate = .ok ()

theorem Complete.valid {f : Filter} (h : f.Complete) : f.base.validate = .ok () := by
  cases f with
  | field f => exact h
  | freeText f => exact h.2.2

def markEmitted : Filter → Filter
  | field f => field { f with emitted := true }
  | freeText f => freeText { f with emitted := true }

/-- An append either fails and changes nothing, or ends the emission that begins on the statement
with the clause of the filter. -/
theorem append_cases (f : Filter) (s : Statement) :
    (∃ e, f.append s = ⟨f, s, .error e⟩) ∨
      f.isEmitted = false ∧ f.Complete ∧ ∃ d, s.dialect = some d ∧
        f.append s = ⟨f.markEmitted, (s.emission d).commitClause (f.clause d), .ok ()⟩ := by
  cases f with
  | field f =>
    rw [append]
    obtain ⟨e, refused⟩ | ⟨emitted, valid, d, hd, accepted⟩ := f.append_cases s
    · rw [refused]
      exact .inl ⟨e, rfl⟩
    · rw [accepted]
      exact .inr ⟨emitted, valid, d, hd, rfl⟩
  | freeText f =>
    rw [append]
    obtain ⟨e, refused⟩ | ⟨emitted, searched, valid, terms, d, said, hd, accepted⟩ :=
      f.append_cases s
    · rw [refused]
      exact .inl ⟨e, rfl⟩
    · have same : clause d (freeText f) = f.clause d terms := by
        rw [clause, FreeTextFilter.terms_of_searchTerms? said, Option.getD_some]
      refine .inr ⟨emitted, ⟨by simp [said], searched, valid⟩, d, hd, ?_⟩
      rw [accepted, same]
      rfl

/-- Whether a filter is a search without words. -/
def lacksWords : Filter → Bool
  | field _ => false
  | freeText f => f.searchTerms?.isNone

/-- Whether a filter is a search in no columns. -/
def lacksColumns : Filter → Bool
  | field _ => false
  | freeText f => f.searchFields.isEmpty

/-- What appending a filter answers. -/
theorem result_append (f : Filter) (s : Statement) : (f.append s).result =
    if f.isEmitted then .error .alreadyEmitted
    else if f.lacksWords then .error .missingSearchTerms
    else if s.dialect.isNone then .error .missingDialect
    else if f.lacksColumns then .error .noSearchableFields
    else f.base.validate := by
  cases f with
  | field f =>
    rw [append, f.append_eq, isEmitted, base]
    cases f.emitted with
    | true => rfl
    | false =>
      cases s.dialect with
      | none => rfl
      | some d => cases f.validate <;> rfl
  | freeText f =>
    rw [append, f.append_eq, isEmitted, lacksWords, lacksColumns, base]
    cases f.emitted with
    | true => rfl
    | false =>
      cases f.searchTerms? with
      | none => rfl
      | some terms =>
        cases s.dialect with
        | none => rfl
        | some d =>
          cases f.searchFields.isEmpty with
          | true => rfl
          | false => cases f.base.validate <;> rfl

/-- Filters with the same clause make the same of a statement, if the answer is the same. -/
theorem statement_append_congr {f g : Filter} {s : Statement}
    (clauses : ∀ d, f.clause d = g.clause d) (h : (f.append s).result = (g.append s).result) :
    (f.append s).statement = (g.append s).statement := by
  obtain ⟨e, refused⟩ | ⟨-, -, d, hd, accepted⟩ := f.append_cases s
  · rw [refused] at h ⊢
    obtain ⟨e', refused'⟩ | ⟨-, -, d', -, accepted'⟩ := g.append_cases s
    · rw [refused']
    · rw [accepted'] at h
      cases h
  · rw [accepted] at h ⊢
    obtain ⟨e', refused'⟩ | ⟨-, -, d', hd', accepted'⟩ := g.append_cases s
    · rw [refused'] at h
      cases h
    · obtain rfl : d = d' := Option.some.inj (hd.symm.trans hd')
      rw [accepted', clauses]

theorem appendAll_cons_eq_ok {f : Filter} {fs : List Filter} {s t : Statement} :
    appendAll s (f :: fs) = .ok t ↔
      (f.append s).result = .ok () ∧ appendAll (f.append s).statement fs = .ok t := by
  rw [appendAll]
  cases (f.append s).result <;> simp

theorem exists_of_appendAll_eq_error {fs : List Filter} {s : Statement} {error : FilterError}
    (h : appendAll s fs = .error error) :
    ∃ f ∈ fs, ∃ t, (f.append t).result = .error error := by
  induction fs generalizing s with
  | nil => cases h
  | cons f fs ih =>
    rw [appendAll] at h
    cases first : (f.append s).result with
    | error e =>
      simp only [first] at h
      cases h
      exact ⟨f, List.mem_cons_self, s, first⟩
    | ok =>
      simp only [first] at h
      obtain ⟨g, member, t, failed⟩ := ih h
      exact ⟨g, List.mem_cons_of_mem f member, t, failed⟩

end Filter
end EntityFilter
