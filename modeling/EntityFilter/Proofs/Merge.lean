import EntityFilter.Proofs.Agreement

/-!
A search with further demands.  Its fragment is the fragment of the demands alone and the search,
and its parameters are those of the demands alone and then the words, under the name and with the
marker that come next.
-/

namespace EntityFilter

/-- The filter as it was before it was appended. -/
def FieldFilter.renewed (f : FieldFilter) : FieldFilter := { f with emitted := false }

theorem FieldFilter.clause_renewed (f : FieldFilter) (d : Dialect) :
    f.renewed.clause d = f.clause d := rfl

namespace Emission

variable {s : Statement} {d : Dialect}

theorem bindAll_append (e : Emission) (as bs : List (Kind × Value)) :
    e.bindAll (as ++ bs) = ((e.bindAll as).1 ++ ((e.bindAll as).2.bindAll bs).1,
      ((e.bindAll as).2.bindAll bs).2) := by
  induction as generalizing e with
  | nil => rfl
  | cons a as ih => simp [bindAll, ih]

/-- An emission binds the next value as its statement would after it. -/
theorem bind_marker (e : Emission) (kind : Kind) (value : Value) :
    (e.bind kind value).1 = e.dialect.marker (e.ahead.bind kind value).1 := by
  simp [bind, Statement.bind, Statement.pushBinding, ahead]

theorem pending_bind (e : Emission) (kind : Kind) (value : Value) :
    (e.bind kind value).2.pending =
      e.pending ++ [⟨(e.ahead.bind kind value).1.name, kind, value⟩] := rfl

theorem commit_eq_ahead (e : Emission) {fragment : String} (h : fragment ≠ "") :
    e.commit fragment =
      { e.ahead with fragments := e.statement.fragments ++ [fragment] } := by
  simp [commit, ahead, h]

end Emission

theorem FieldFilter.append_accepted {f : FieldFilter} {s : Statement} {d : Dialect}
    (hd : s.dialect = some d) (fresh : f.emitted = false) (valid : f.validate = .ok ()) :
    f.append s =
      ⟨{ f with emitted := true }, (s.emission d).commitClause (f.clause d), .ok ()⟩ := by
  rw [append_eq, fresh, hd, valid]
  rfl

namespace FreeTextFilter

variable {f : FreeTextFilter} {s : Statement} {d : Dialect} {terms : String}

/-- The text of a filter is the text of its base and of its search, when the markers of the base
come before the marker of the words. -/
theorem clause_fill (f : FreeTextFilter) (d : Dialect) (terms : String) {markers : List String}
    (h : markers.length = f.base.bound.length) (marker : String) :
    f.base.demands = [] ∧ (f.base.clause d).fill markers = "" ∧
      (f.clause d terms).fill (markers ++ [marker]) =
        d.search f.searchFields.fields marker ∨
    (f.base.clause d).fill markers ≠ "" ∧
      (f.clause d terms).fill (markers ++ [marker]) =
        "(" ++ (f.base.clause d).fill markers ++ ") AND (" ++
          d.search f.searchFields.fields marker ++ ")" := by
  have words : (markers ++ [marker]).getD f.base.bound.length "" = marker := by
    rw [← h, List.getD_append_right _ _ _ _ (Nat.le_refl _), Nat.sub_self]
    rfl
  simp only [Clause.fill_eq_render]
  obtain ⟨none, empty, whole⟩ | ⟨some, whole⟩ :=
    f.clause_render d terms fun n => (markers ++ [marker]).getD n ""
  · refine .inl ⟨none, by rw [empty]; rfl, ?_⟩
    rw [whole, words]
  · obtain ⟨none, -⟩ | ⟨-, visible⟩ := f.base.clause_cases d
    · exact absurd none some
    refine .inr ⟨visible _, ?_⟩
    -- The holes of the base are filled with the markers that come first.
    have base : (f.base.clause d).render (fun n => (markers ++ [marker]).getD n "") =
        (f.base.clause d).render fun n => markers.getD n "" := by
      refine Clause.render_congr fun k hk => ?_
      rw [f.base.clause_sequential d, FieldFilter.clause_bindings, List.mem_range, ← h] at hk
      exact List.getD_append _ _ _ _ hk
    rw [whole, words, base]
    simp [Dialect.andKeyword, String.append_assoc]

theorem append_accepted (hd : s.dialect = some d) (fresh : f.emitted = false)
    (said : f.searchTerms? = some terms) (searched : f.searchFields.fields ≠ [])
    (valid : f.base.validate = .ok ()) :
    f.append s =
      ⟨{ f with emitted := true }, (s.emission d).commitClause (f.clause d terms), .ok ()⟩ := by
  have columns : f.searchFields.isEmpty = false := by
    simpa [FieldSet.isEmpty] using searched
  rw [append_eq, fresh, said, hd, columns, valid]
  rfl

/-- The emission of a filter is that of its base up to the words. -/
theorem exists_emission (hd : s.dialect = some d) (f : FreeTextFilter) (terms : String) :
    ∃ (e : Emission) (markers : List String), e.On s ∧ e.dialect = d ∧
      markers.length = f.base.bound.length ∧ (f.base.bound = [] → e = s.emission d) ∧
      (s.emission d).commitClause (f.base.clause d) =
        e.commit ((f.base.clause d).fill markers) ∧
      (s.emission d).commitClause (f.clause d terms) =
        (e.bind .text (.text terms)).2.commit
          ((f.clause d terms).fill
            (markers ++ [d.marker (e.ahead.bind .text (.text terms)).1])) := by
  have on := (Statement.emission_on hd).bindAll f.base.bound
  have dialect := Option.some.inj (hd.symm.trans on.dialect)
  obtain ⟨contents, markers⟩ := Emission.bindAll_of_begin (Statement.begin_some hd) f.base.bound
  refine ⟨_, ((s.emission d).bindAll f.base.bound).1, on, dialect.symm, ?_,
    fun none => by rw [none]; rfl, ?_, ?_⟩
  · rw [markers, Dialect.markers_length, ← List.length_map (f := Binding.content), contents]
  · rw [Emission.commitClause, f.base.clause_bindings]
  · rw [Emission.commitClause, f.clause_bindings, Emission.bindAll_append]
    simp only [Emission.bindAll, Emission.bind_marker, ← dialect]

/-- What a search adds, against what its base adds alone: the statement after the base would give
the words the parameter `p`. -/
theorem append_merges (hd : s.dialect = some d) (fresh : f.emitted = false)
    (said : f.terms = some terms) (worded : Text.isAllBlank terms = false)
    (searched : f.searchFields.fields ≠ []) (valid : f.base.validate = .ok ()) :
    ∃ (alone : Statement) (p : Parameter),
      (f.base.renewed.append s).result = .ok () ∧
      (f.base.renewed.append s).statement = alone ∧
      p = (alone.bind .text (.text terms)).1 ∧
      (f.append s).result = .ok () ∧ (f.append s).filter = { f with emitted := true } ∧
      (alone = s ∧
          s.Gains (d.search f.searchFields.fields (d.marker p)) [⟨p.name, .text, .text terms⟩]
            (f.append s).statement ∨
        ∃ text added, s.Gains text added alone ∧
          s.Gains ("(" ++ text ++ ") AND (" ++
              d.search f.searchFields.fields (d.marker p) ++ ")")
            (added ++ [⟨p.name, .text, .text terms⟩]) (f.append s).statement) := by
  have words : f.searchTerms? = some terms := by
    simp [searchTerms?, said, worded]
  have whole := append_accepted hd fresh words searched valid
  have base := FieldFilter.append_accepted (f := f.base.renewed) hd rfl valid
  obtain ⟨e, markers, on, rfl, count, begun, ended, joined⟩ := exists_emission hd f terms
  rw [f.base.clause_renewed, ended] at base
  rw [joined] at whole
  have filled := (f.clause_visible e.dialect terms (by simpa [FieldSet.isEmpty] using searched))
    |>.fill_ne_empty (markers ++ [e.dialect.marker (e.ahead.bind .text (.text terms)).1])
  refine ⟨_, _, by rw [base], by rw [base], rfl, by rw [whole], by rw [whole], ?_⟩
  rw [whole]
  obtain ⟨none, empty, alone⟩ | ⟨text, both⟩ :=
    f.clause_fill e.dialect terms count (e.dialect.marker (e.ahead.bind .text (.text terms)).1)
  · -- The base says nothing, so the emission of the words is the whole one.
    have silent : f.base.bound = [] := by
      rw [FieldFilter.bound, none]
      rfl
    have unchanged : e.commit "" = s := by
      rw [Emission.commit_empty, on.abandon]
    have start : e.ahead = s := by
      rw [begun silent, Emission.ahead, Statement.emission, List.append_nil]
    have nothing : e.pending = [] := by
      rw [begun silent]
      rfl
    have gained := (on.bind .text (.text terms)).gains filled
    rw [e.pending_bind, alone, nothing, start] at gained
    rw [empty, unchanged, alone, start]
    exact .inl ⟨rfl, gained⟩
  · have gained := (on.bind .text (.text terms)).gains filled
    rw [e.pending_bind, both] at gained
    have next : (e.commit ((f.base.clause e.dialect).fill markers)).bind .text (.text terms) = _ :=
      congrArg (Statement.bind · .text (.text terms)) (e.commit_eq_ahead text)
    rw [next, both]
    exact .inr ⟨_, _, on.gains text, gained⟩

/-- A choice of two demands and a search, behind a parameter whose chosen name the counter then
skips. -/
theorem append_merges_reserved_name :
    ∃ (f : FreeTextFilter) (s : Statement), s.Reachable ∧
      s.parameters.map Binding.name = ["p2"] ∧
      (f.append s).statement.fragments =
        ["([age] > @p1 OR [name] = @p3) AND (FREETEXT([name], @p4))"] ∧
      (f.append s).statement.parameters = s.parameters ++
        [⟨"p1", .integer, .integer 7⟩, ⟨"p3", .text, .text "a"⟩, ⟨"p4", .text, .text " b "⟩] := by
  let f : FreeTextFilter := {
    base := {
      entity := ⟨"person", "people", []⟩
      fields := ⟨[⟨"age", "age", .integer⟩, ⟨"name", "name", .text⟩]⟩
      criteria := [("name", .equals (.text "a")), ("age", .compares .greater (.integer 7))]
      mode := .any }
    searchFields := ⟨[⟨"name", "name", .text⟩]⟩
    terms := some " b " }
  let s : Statement := ((Statement.new .mssql).perform (.bindNamed "p2" .integer (.integer 1))).2
  have base : (f.base.renewed.append s).statement.fragments = ["[age] > @p1 OR [name] = @p3"] ∧
      (f.base.renewed.append s).statement.parameters = s.parameters ++
        [⟨"p1", .integer, .integer 7⟩, ⟨"p3", .text, .text "a"⟩] := by
    decide +kernel
  refine ⟨f, s, (Statement.Reachable.new .mssql).step (.perform _ _), rfl, ?_⟩
  obtain ⟨alone, p, -, rfl, rfl, -, -, ⟨silent, -⟩ | ⟨text, added, first, both⟩⟩ :=
    append_merges (f := f) (s := s) (d := .mssql) rfl rfl rfl (by decide) (by simp [f]) rfl
  · rw [silent] at base
    cases base.1
  · have same := first.fragments.symm.trans base.1
    have bound := first.parameters.symm.trans base.2
    obtain rfl := List.append_cancel_left bound
    obtain ⟨rfl, -⟩ := List.cons.inj same
    exact ⟨both.fragments.trans (by decide +kernel), both.parameters.trans (by decide +kernel)⟩

end FreeTextFilter
end EntityFilter
