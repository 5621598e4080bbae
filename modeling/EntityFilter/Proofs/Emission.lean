import EntityFilter.Proofs.Marker
import EntityFilter.Statement.Emission

/-!
What an emission does to its statement.  Values are bound under free names; ending the emission with
a fragment adds them behind the earlier parameters, and abandoning it leaves no trace.
-/

namespace EntityFilter

/-- An emission begins on every statement that has a dialect, and on no other. -/
theorem Statement.begin_eq_ok {s : Statement} {e : Emission} :
    s.begin = .ok e ↔ ∃ d, s.dialect = some d ∧
      e = { statement := s, dialect := d, counter := s.registry.counter } := by
  cases hd : s.dialect with
  | none =>
    have refused : s.begin = .error .missingDialect := by
      rw [Statement.begin, Statement.requireDialect, hd]
      rfl
    simp [refused]
  | some d =>
    have begun : s.begin =
        .ok { statement := s, dialect := d, counter := s.registry.counter } := by
      rw [Statement.begin, Statement.requireDialect, hd]
      rfl
    simp [begun, eq_comm]

namespace Emission

variable {s : Statement} {e : Emission}

/-- `e` is an emission that began on `s`: all it has changed are the counter and the names taken,
and those it has taken were free. -/
structure On (s : Statement) (e : Emission) : Prop where
  dialect : s.dialect = some e.dialect
  counter : e.counter = s.registry.counter
  statement : ∃ counter, e.statement =
    { s with registry :=
      { s.registry with counter, issued := e.names.reverse ++ s.registry.issued } }
  names : e.pending.map Binding.name = e.names
  distinct : e.names.Nodup
  free : ∀ name ∈ e.names, name ∉ s.registry.issued
  generated : ∀ name ∈ e.names, ∃ k, name = s.registry.nameAt k

theorem On.begin (h : s.begin = .ok e) : On s e := by
  obtain ⟨d, hd, rfl⟩ := Statement.begin_eq_ok.mp h
  exact ⟨hd, rfl, ⟨s.registry.counter, rfl⟩, rfl, List.nodup_nil, by simp, by simp⟩

theorem On.bind (h : On s e) (kind : Kind) (value : Value) : On s (e.bind kind value).2 := by
  obtain ⟨counter, hs⟩ := h.statement
  have free : e.statement.registry.nameAt e.statement.registry.next ∉
      e.names ++ s.registry.issued := by
    have := e.statement.registry.nameAt_next_not_mem
    simpa [hs] using this
  have stem : ∀ k, e.statement.registry.nameAt k = s.registry.nameAt k := by
    intro k
    rw [hs]
    rfl
  rw [List.mem_append, not_or] at free
  refine ⟨h.dialect, h.counter, ⟨e.statement.registry.next, ?_⟩, ?_, ?_, ?_, ?_⟩
  · simp only [Emission.bind, Registry.allocate, List.reverse_append, List.reverse_cons,
      List.reverse_nil, List.nil_append, List.cons_append]
    rw [hs]
  · simp only [Emission.bind, Registry.allocate, List.map_append, List.map_cons, List.map_nil,
      h.names]
  · simp only [Emission.bind, Registry.allocate, List.nodup_append, List.nodup_singleton,
      List.mem_singleton]
    refine ⟨h.distinct, trivial, fun a ha b hb => ?_⟩
    rintro rfl
    exact free.1 (hb ▸ ha)
  · intro name hname
    rcases List.mem_append.mp hname with hname | hname
    · exact h.free name hname
    · rw [List.mem_singleton.mp hname]
      exact free.2
  · intro name hname
    rcases List.mem_append.mp hname with hname | hname
    · exact h.generated name hname
    · exact ⟨_, (List.mem_singleton.mp hname).trans (stem _)⟩

theorem On.bindAll (h : On s e) (values : List (Kind × Value)) : On s (e.bindAll values).2 := by
  induction values generalizing e with
  | nil => exact h
  | cons v values ih => exact ih (h.bind v.1 v.2)

/-- Abandoning an emission restores the statement that it began on. -/
theorem On.abandon (h : On s e) : e.abandon = s := by
  obtain ⟨counter, hs⟩ := h.statement
  rw [Emission.abandon, h.counter, hs, Registry.release_taken s.registry counter h.free]

/-- Ending an emission with a fragment adds the fragment, and what was bound. -/
theorem On.commit (h : On s e) {fragment : String} (hf : fragment ≠ "") :
    ∃ counter, e.commit fragment =
      { s with
        registry := { s.registry with
          counter, issued := (e.pending.map Binding.name).reverse ++ s.registry.issued }
        fragments := s.fragments ++ [fragment]
        parameters := s.parameters ++ e.pending } := by
  obtain ⟨counter, hs⟩ := h.statement
  refine ⟨counter, ?_⟩
  rw [Emission.commit, if_neg (by simpa using hf), hs, h.names]

theorem commit_empty (e : Emission) : e.commit "" = e.abandon := rfl

/-- Values are bound in order, and the answers are the markers of their bindings. -/
theorem bindAll_pending (e : Emission) (values : List (Kind × Value)) :
    ∃ new, (e.bindAll values).2.pending = e.pending ++ new ∧ new.map Binding.content = values ∧
      (e.bindAll values).1 =
        e.dialect.markers (e.statement.parameters.length + e.pending.length) new := by
  induction values generalizing e with
  | nil => exact ⟨[], (List.append_nil _).symm, rfl, rfl⟩
  | cons v values ih =>
    obtain ⟨new, pending, contents, markers⟩ := ih (e.bind v.1 v.2).2
    refine ⟨⟨e.statement.registry.nameAt e.statement.registry.next, v.1, v.2⟩ :: new, ?_, ?_, ?_⟩
    · simpa [Emission.bindAll, Emission.bind, Registry.allocate] using pending
    · rw [List.map_cons, contents]
      rfl
    · simp only [Emission.bindAll, markers]
      simp [Emission.bind, Registry.allocate, Dialect.markers, numbered, Nat.add_assoc]

/-- What an emission has bound when it ends, and the markers that it has answered. -/
theorem bindAll_of_begin (h : s.begin = .ok e) (values : List (Kind × Value)) :
    (e.bindAll values).2.pending.map Binding.content = values ∧
      (e.bindAll values).1 =
        e.dialect.markers s.parameters.length (e.bindAll values).2.pending := by
  obtain ⟨new, pending, contents, markers⟩ := e.bindAll_pending values
  obtain ⟨d, hd, rfl⟩ := Statement.begin_eq_ok.mp h
  rw [pending]
  exact ⟨contents, markers⟩

end Emission
end EntityFilter
