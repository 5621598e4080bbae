import EntityFilter.Proofs.Append
import EntityFilter.Proofs.Marker
import Mathlib.Logic.Relation

/-!
The history of a statement.  Whatever happens to a statement, its parameters have different names
and different markers, the registry knows exactly these names, and what a parameter stands for never
changes.
-/

namespace EntityFilter

/-- Ends an emission with a fragment, or drops it. -/
def Emission.finish (e : Emission) : Option String → Statement
  | some fragment => e.commit fragment
  | none => e.abandon

namespace Statement

/-- An operation on a statement.  An emission binds values, and ends with a fragment or is
dropped. -/
inductive Operation where
  | bind (kind : Kind) (value : Value)
  | bindNamed (name : String) (kind : Kind) (value : Value)
  | setDialect (d : Dialect)
  | setStem (stem : String)
  | pushFragment (fragment : String)
  | emit (values : List (Kind × Value)) (fragment? : Option String)

inductive Reply where
  | done
  | parameter (p : Parameter)
  | markers (texts : List String)
  | refused (e : FilterError)

/-- Performs an operation.  One that is refused changes nothing. -/
def perform (s : Statement) : Operation → Reply × Statement
  | .bind kind value =>
    let (p, t) := s.bind kind value
    (.parameter p, t)
  | .bindNamed name kind value =>
    match s.bindNamed name kind value with
    | .ok (p, t) => (.parameter p, t)
    | .error e => (.refused e, s)
  | .setDialect d => (.done, s.setDialect d)
  | .setStem stem => (.done, s.setStem stem)
  | .pushFragment fragment => (.done, s.pushFragment fragment)
  | .emit values fragment? =>
    match s.begin with
    | .ok e =>
      let (texts, e) := e.bindAll values
      (.markers texts, e.finish fragment?)
    | .error e => (.refused e, s)

/-- A step in the history of a statement: an operation, or the append of some filter. -/
inductive Step : Statement → Statement → Prop
  | perform (s : Statement) (o : Operation) : Step s (s.perform o).2
  | append (s : Statement) (f : Filter) : Step s (f.append s).statement

/-- `t` is what `s` becomes after some steps, or none. -/
abbrev Later : Statement → Statement → Prop := Relation.ReflTransGen Step

/-- A statement with a history from its beginning on. -/
inductive Reachable : Statement → Prop
  | new (d : Dialect) : Reachable (new d)
  | detached : Reachable detached
  | step {s t : Statement} : Reachable s → Step s t → Reachable t

/-- `t` has the bindings `added` behind those of `s`, under names that were free in `s`. -/
structure Adds (s t : Statement) (added : List Binding) : Prop where
  fragments : s.fragments <+: t.fragments
  parameters : t.parameters = s.parameters ++ added
  issued : t.registry.issued = (added.map Binding.name).reverse ++ s.registry.issued
  distinct : (added.map Binding.name).Nodup
  free : ∀ b ∈ added, b.name ∉ s.registry.issued

theorem Adds.refl (s : Statement) : Adds s s [] :=
  ⟨List.prefix_rfl, (List.append_nil _).symm, rfl, List.nodup_nil, by simp⟩

theorem bind_adds (s : Statement) (kind : Kind) (value : Value) :
    Adds s (s.bind kind value).2 [⟨(s.bind kind value).1.name, kind, value⟩] := by
  refine ⟨List.prefix_rfl, rfl, rfl, List.nodup_singleton _, fun b hb => ?_⟩
  rw [List.mem_singleton.mp hb]
  exact s.registry.nameAt_next_not_mem

theorem bindNamed_eq_ok {s t : Statement} {name : String} {kind : Kind} {value : Value}
    {p : Parameter} (h : s.bindNamed name kind value = .ok (p, t)) :
    p = ⟨name, s.parameters.length + 1, kind⟩ ∧ Adds s t [⟨name, kind, value⟩] := by
  by_cases taken : s.registry.isIssued name = true
  · simp [bindNamed, Registry.reserve, taken, Except.map] at h
  · simp only [bindNamed, Registry.reserve, taken, Except.map] at h
    obtain ⟨rfl, rfl⟩ := Prod.mk.inj (Except.ok.inj h)
    refine ⟨rfl, List.prefix_rfl, rfl, rfl, List.nodup_singleton _, fun b hb => ?_⟩
    rw [List.mem_singleton.mp hb]
    exact fun member => taken (Registry.isIssued_iff.mpr member)

end Statement

/-- An emission adds what it has bound, if it ends with a fragment. -/
theorem Emission.On.commit_adds {s : Statement} {e : Emission} (h : On s e) {fragment : String}
    (hf : fragment ≠ "") : s.Adds (e.commit fragment) e.pending := by
  obtain ⟨counter, ht⟩ := h.commit hf
  rw [ht]
  refine ⟨List.prefix_append _ _, rfl, rfl, h.names ▸ h.distinct, fun b hb => ?_⟩
  exact h.free _ (h.names ▸ List.mem_map_of_mem hb)

theorem Emission.On.finish_adds {s : Statement} {e : Emission} (h : On s e)
    (fragment? : Option String) : ∃ added, s.Adds (e.finish fragment?) added := by
  cases fragment? with
  | none => exact ⟨[], by rw [finish, h.abandon]; exact .refl s⟩
  | some fragment =>
    by_cases hf : fragment = ""
    · exact ⟨[], by rw [finish, hf, commit_empty, h.abandon]; exact .refl s⟩
    · exact ⟨e.pending, h.commit_adds hf⟩

namespace Statement

theorem emission_on {s : Statement} {d : Dialect} (hd : s.dialect = some d) :
    (s.emission d).On s :=
  .begin (begin_some hd)

/-- Every step adds bindings under free names, or nothing. -/
theorem Step.adds {s t : Statement} (h : Step s t) : ∃ added, Adds s t added := by
  cases h with
  | append f =>
    rcases f.append_cases s with ⟨e, h⟩ | ⟨-, -, d, hd, h⟩
    · exact ⟨[], by rw [h]; exact .refl s⟩
    · rw [h]
      exact ((emission_on hd).bindAll _).finish_adds (some _)
  | perform o =>
    cases o with
    | bind kind value => exact ⟨_, s.bind_adds kind value⟩
    | bindNamed name kind value =>
      simp only [Statement.perform]
      split
      · rename_i p t h
        exact ⟨_, (bindNamed_eq_ok h).2⟩
      · exact ⟨[], .refl s⟩
    | setDialect d => exact ⟨[], { Adds.refl s with }⟩
    | setStem stem => exact ⟨[], { Adds.refl s with }⟩
    | pushFragment fragment =>
      refine ⟨[], ?_⟩
      simp only [Statement.perform, pushFragment]
      split
      · exact .refl s
      · exact { Adds.refl s with fragments := List.prefix_append _ _ }
    | emit values fragment? =>
      simp only [Statement.perform]
      split
      · rename_i e h
        exact ((Emission.On.begin h).bindAll values).finish_adds fragment?
      · exact ⟨[], .refl s⟩

/-- The registry has given out the names of the parameters, each once. -/
structure Coherent (s : Statement) : Prop where
  issued : s.registry.issued = (s.parameters.map Binding.name).reverse
  distinct : (s.parameters.map Binding.name).Nodup

theorem Coherent.adds {s t : Statement} {added : List Binding} (hs : Coherent s)
    (h : Adds s t added) : Coherent t := by
  constructor
  · rw [h.issued, hs.issued, h.parameters, List.map_append, List.reverse_append]
  · rw [h.parameters, List.map_append, List.nodup_append]
    refine ⟨hs.distinct, h.distinct, fun a ha b hb => ?_⟩
    obtain ⟨c, hc, rfl⟩ := List.mem_map.mp hb
    rintro rfl
    exact h.free c hc (by rw [hs.issued]; simpa using ha)

theorem Reachable.coherent {s : Statement} (h : Reachable s) : Coherent s := by
  induction h with
  | new d => exact ⟨rfl, List.nodup_nil⟩
  | detached => exact ⟨rfl, List.nodup_nil⟩
  | step _ st ih =>
    obtain ⟨added, h⟩ := st.adds
    exact ih.adds h

theorem Reachable.later {s t : Statement} (hs : Reachable s) (h : Later s t) : Reachable t := by
  induction h with
  | refl => exact hs
  | tail _ st ih => exact ih.step st

/-- Fragments and parameters stay where they are, and new ones come behind them. -/
theorem Later.grows {s t : Statement} (h : Later s t) :
    s.fragments <+: t.fragments ∧ s.parameters <+: t.parameters := by
  induction h with
  | refl => exact ⟨List.prefix_rfl, List.prefix_rfl⟩
  | tail _ st ih =>
    obtain ⟨added, h⟩ := st.adds
    exact ⟨ih.1.trans h.fragments, ih.2.trans (h.parameters ▸ List.prefix_append _ _)⟩

/-- In `t` a parameter stands for a value: the binding at its number, and no other one, has its
name, and binds that value under its kind. -/
structure Identifies (t : Statement) (p : Parameter) (value : Value) : Prop where
  positive : 0 < p.ordinal
  bound : t.parameters[p.ordinal - 1]? = some ⟨p.name, p.kind, value⟩
  only : ∀ b ∈ t.parameters, b.name = p.name → b = ⟨p.name, p.kind, value⟩

theorem Coherent.identifies {t : Statement} (ht : Coherent t) {i : Nat} {b : Binding}
    (h : t.parameters[i]? = some b) : t.Identifies ⟨b.name, i + 1, b.kind⟩ b.value := by
  refine ⟨Nat.succ_pos i, h, fun c hc same => ?_⟩
  exact List.inj_on_of_nodup_map ht.distinct hc (List.mem_of_getElem? h) same

/-- Bindings behind those of `s` stand in every later statement for the parameters that they were
when they were added. -/
theorem Adds.identifies {s u t : Statement} {added : List Binding} (ht : Coherent t)
    (h : Adds s u added) (later : Later u t) {i : Nat} {b : Binding} (hb : added[i]? = some b) :
    t.Identifies ⟨b.name, s.parameters.length + i + 1, b.kind⟩ b.value := by
  obtain ⟨rest, hrest⟩ := later.grows.2
  refine ht.identifies ?_
  rw [← hrest, h.parameters, List.append_assoc, List.getElem?_append_right (by omega),
    Nat.add_sub_cancel_left, List.getElem?_append_left (List.getElem?_eq_some_iff.mp hb).1]
  exact hb

theorem Adds.identifies_all {s u t : Statement} {added : List Binding} (ht : Coherent t)
    (h : Adds s u added) (later : Later u t) :
    List.Forall₂ (fun p b => p.kind = b.kind ∧ t.Identifies p b.value)
      (numbered s.parameters.length added) added := by
  refine List.forall₂_iff_get.mpr ⟨numbered_length _ _, fun i hi hb => ?_⟩
  have place := numbered_getElem? s.parameters.length added i
  rw [List.getElem?_eq_getElem hi, List.getElem?_eq_getElem hb] at place
  have bound := h.identifies ht later (List.getElem?_eq_getElem hb)
  rw [List.get_eq_getElem, List.get_eq_getElem, Option.some.inj place]
  exact ⟨rfl, bound⟩

/-- Parameters are told apart by their names and markers, and stay what they are. -/
structure KeepsIdentity (s : Statement) : Prop where
  /-- Names are pairwise different. -/
  names : (s.parameters.map Binding.name).Nodup
  /-- The names given out are those of the parameters. -/
  issued : ∀ name, s.registry.isIssued name = true ↔ name ∈ s.parameters.map Binding.name
  count : s.registry.issued.length = s.parameters.length
  /-- In every dialect, markers are pairwise different. -/
  markers : ∀ d : Dialect, (d.markers 0 s.parameters).Nodup
  /-- Fragments and parameters are only added at the end. -/
  grows : ∀ t, Later s t → s.fragments <+: t.fragments ∧ s.parameters <+: t.parameters
  /-- The parameter of a bound value stands for that value ever after. -/
  bind : ∀ kind value t, Later (s.bind kind value).2 t →
    (s.bind kind value).1.kind = kind ∧ t.Identifies (s.bind kind value).1 value
  /-- So does one whose name was chosen. -/
  bindNamed : ∀ name kind value p u t, s.bindNamed name kind value = .ok (p, u) → Later u t →
    p.name = name ∧ p.kind = kind ∧ t.Identifies p value
  /-- The markers of an emission that ends with a fragment are those of parameters that stand for
  its values ever after. -/
  emission : ∀ e values fragment t, s.begin = .ok e → fragment ≠ "" →
    Later ((e.bindAll values).2.commit fragment) t →
    ∃ ps : List Parameter, (e.bindAll values).1 = ps.map e.dialect.marker ∧
      List.Forall₂ (fun p v => p.kind = v.1 ∧ t.Identifies p v.2) ps values

/-- Whatever has happened to a statement, its parameters keep their identity. -/
theorem parameters_keep_identity {s : Statement} (hs : Reachable s) : KeepsIdentity s where
  names := hs.coherent.distinct
  issued name := by
    rw [Registry.isIssued_iff, hs.coherent.issued, List.mem_reverse]
  count := by rw [hs.coherent.issued, List.length_reverse, List.length_map]
  markers d := d.markers_nodup 0 hs.coherent.distinct
  grows _ later := later.grows
  bind kind value t later := by
    have ht := ((hs.step (.perform s (.bind kind value))).later later).coherent
    exact ⟨rfl, (s.bind_adds kind value).identifies ht later (i := 0) rfl⟩
  bindNamed name kind value p u t h later := by
    obtain ⟨rfl, added⟩ := bindNamed_eq_ok h
    have reached : (s.perform (.bindNamed name kind value)).2 = u := by
      simp only [perform, h]
    have hu := reached ▸ hs.step (.perform s (.bindNamed name kind value))
    have ht := (hu.later later).coherent
    exact ⟨rfl, rfl, added.identifies ht later (i := 0) rfl⟩
  emission e values fragment t h hf later := by
    have added := ((Emission.On.begin h).bindAll values).commit_adds hf
    have reached : (s.perform (.emit values (some fragment))).2 =
        (e.bindAll values).2.commit fragment := by
      simp only [perform, h, Emission.finish]
    have hu := reached ▸ hs.step (.perform s (.emit values (some fragment)))
    have ht := (hu.later later).coherent
    obtain ⟨contents, markers⟩ := Emission.bindAll_of_begin h values
    have all := List.forall₂_map_right_iff (f := Binding.content)
      (R := fun p v => p.kind = v.1 ∧ t.Identifies p v.2) |>.mpr (added.identifies_all ht later)
    rw [contents] at all
    exact ⟨_, markers, all⟩

/-- Names of three origins in one statement: a chosen one, which the counter then skips, and
generated ones under two stems that spell numbers alike. -/
theorem parameters_keep_identity_stems :
    ∃ s, Reachable s ∧ s.parameters.map Binding.name = ["p11", "p12"] ∧ KeepsIdentity s := by
  have reached : Reachable
      ((((new .mssql).perform (.bindNamed "p11" .text (.text "a"))).2.perform
        (.setStem "p1")).2.perform (.bind .integer (.integer 1))).2 :=
    (((Reachable.new .mssql).step (.perform _ _)).step (.perform _ _)).step (.perform _ _)
  exact ⟨_, reached, by decide, parameters_keep_identity reached⟩

end Statement
end EntityFilter
