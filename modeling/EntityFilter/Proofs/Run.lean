import EntityFilter.Proofs.Template
import Mathlib.Data.List.GetD

/-!
Filters that are appended one after the other.  Their values become parameters in one row, and the
text of each filter has the markers of its own values in it.
-/

namespace EntityFilter

/-- The marker of the `k`-th of bindings that stand behind `n` others. -/
def Dialect.markerAt (d : Dialect) (n : Nat) (bs : List Binding) (k : Nat) : String :=
  (d.markers n bs).getD k ""

theorem Dialect.markerAt_append_left (d : Dialect) (n : Nat) {as : List Binding}
    (bs : List Binding) {k : Nat} (h : k < as.length) :
    d.markerAt n (as ++ bs) k = d.markerAt n as k := by
  rw [markerAt, markerAt, markers_append, List.getD_append]
  simpa using h

theorem Dialect.markerAt_append_right (d : Dialect) (n : Nat) (as bs : List Binding) (k : Nat) :
    d.markerAt n (as ++ bs) (k + as.length) = d.markerAt (n + as.length) bs k := by
  rw [markerAt, markerAt, markers_append, List.getD_append_right] <;> simp

namespace Filter

/-- What filters have added to `s` in `t`: the parameters `added`, and a fragment for each filter
that says anything. -/
structure Added (d : Dialect) (fs : List Filter) (s t : Statement) (added : List Binding) :
    Prop where
  dialect : t.dialect = some d
  parameters : t.parameters = s.parameters ++ added
  contents : added.map Binding.content = fs.flatMap bound
  named : ∀ b ∈ added, ∃ k, b.name = s.registry.nameAt k
  fragments : t.fragments = s.fragments ++
    (Clause.renders (d.markerAt s.parameters.length added) (fs.map (clause d))).filter (· ≠ "")
  complete : ∀ f ∈ fs, f.Complete

variable {d : Dialect} {f : Filter} {fs : List Filter} {s t u : Statement}
  {first added : List Binding}

theorem Added.nil (hd : s.dialect = some d) : Added d [] s s [] where
  dialect := hd
  parameters := (List.append_nil _).symm
  contents := rfl
  named := by simp
  fragments := (List.append_nil _).symm
  complete := by simp

/-- The markers of a filter's values stay what they are when others follow. -/
theorem render_markerAt (contents : first.map Binding.content = f.bound) (n : Nat) :
    (f.clause d).render (d.markerAt n (first ++ added)) =
      (f.clause d).fill (d.markers n first) := by
  rw [Clause.fill_eq_render]
  refine Clause.render_congr fun k hk => d.markerAt_append_left n _ ?_
  rw [clause_holes] at hk
  have used := lt_of_mem_uses hk
  rwa [← contents, List.length_map] at used

theorem renders_cons (contents : first.map Binding.content = f.bound) (n : Nat) :
    Clause.renders (d.markerAt n (first ++ added)) ((f :: fs).map (clause d)) =
      (f.clause d).fill (d.markers n first) ::
        Clause.renders (d.markerAt (n + first.length) added) (fs.map (clause d)) := by
  have width : (f.clause d).bindings.length = first.length := by
    rw [clause_bindings, ← contents, List.length_map]
  rw [List.map_cons, Clause.renders, render_markerAt contents, width]
  simp only [d.markerAt_append_right]

theorem Added.cons (complete : f.Complete) (contents : first.map Binding.content = f.bound)
    (named : ∀ b ∈ first, ∃ k, b.name = s.registry.nameAt k)
    (stem : u.registry.stem = s.registry.stem) (parameters : u.parameters = s.parameters ++ first)
    (fragments : u.fragments = s.fragments ++
      [(f.clause d).fill (d.markers s.parameters.length first)].filter (· ≠ ""))
    (h : Added d fs u t added) : Added d (f :: fs) s t (first ++ added) where
  dialect := h.dialect
  parameters := by rw [h.parameters, parameters, List.append_assoc]
  contents := by rw [List.map_append, contents, h.contents, List.flatMap_cons]
  named b hb := by
    rcases List.mem_append.mp hb with hb | hb
    · exact named b hb
    · obtain ⟨k, hk⟩ := h.named b hb
      exact ⟨k, by rw [hk, Registry.nameAt, stem]; rfl⟩
  fragments := by
    rw [renders_cons contents, h.fragments, fragments, parameters, List.length_append,
      List.append_assoc, ← List.filter_append]
    rfl
  complete := List.forall_mem_cons.mpr ⟨complete, h.complete⟩

/-- What filters add to a statement in a dialect. -/
theorem appendAll_added (hd : s.dialect = some d) (h : appendAll s fs = .ok t) :
    ∃ added, Added d fs s t added := by
  induction fs generalizing s with
  | nil =>
    cases h
    exact ⟨[], .nil hd⟩
  | cons f fs ih =>
    obtain ⟨accepted, others⟩ := appendAll_cons_eq_ok.mp h
    obtain ⟨complete, first, contents, named, gained⟩ := append_gains hd accepted
    obtain ⟨-, silent, rfl, unchanged⟩ | ⟨-, visible, gains⟩ := gained
    · rw [unchanged] at others
      obtain ⟨added, h⟩ := ih hd others
      refine ⟨[] ++ added, h.cons complete contents named rfl (List.append_nil _).symm ?_⟩
      rw [silent]
      exact (List.append_nil _).symm
    · obtain ⟨added, h⟩ := ih (gains.dialect.trans hd) others
      have said : (f.clause d).fill (d.markers s.parameters.length first) ≠ "" := by
        rw [Clause.fill_eq_render]
        exact visible _
      refine ⟨first ++ added, h.cons complete contents named gains.stem gains.parameters ?_⟩
      simp [gains.fragments, said]

end Filter
end EntityFilter
