import EntityFilter.Config.Basic
import EntityFilter.Proofs.Finish
import EntityFilter.Proofs.History
import EntityFilter.Proofs.Meaning
import EntityFilter.Proofs.Run

/-!
The query of a list of filters.  Its condition is read as the demands of all filters, with the
markers of the query's parameters in them.
-/

namespace EntityFilter

open Sql

theorem marks_markerAt (d : Dialect) (n : Nat) {bs : List Binding}
    (h : ∀ b ∈ bs, Plain b.name) : Marks d (d.markerAt n bs) bs.length := by
  intro k hk
  have found : (d.markers n bs)[k]? = some (d.marker ⟨bs[k].name, n + k + 1, bs[k].kind⟩) := by
    rw [Dialect.markers, List.getElem?_map, numbered_getElem?, List.getElem?_eq_getElem hk]
    rfl
  rw [Dialect.markerAt, List.getD_eq_getElem?_getD, found, Option.getD_some]
  exact lexes_marker d (h _ (List.getElem_mem hk))

theorem plain_of_isIdentifier {stem : String} (h : Config.isIdentifier stem = true) :
    Plain stem := by
  rw [Config.isIdentifier] at h
  rw [Plain]
  cases hs : stem.toList with
  | nil => simp
  | cons c cs =>
    simp only [hs, Bool.and_eq_true, Bool.or_eq_true, List.all_eq_true] at h
    refine List.forall_mem_cons.mpr ⟨?_, fun b hb => ?_⟩
    · obtain letter | underscore := h.1
      · simp [Bare.allows, Char.isAlphanum, letter]
      · simp [Bare.allows, underscore]
    · simpa [Bare.allows] using h.2 b hb

namespace Filter

/-- What filters have added to `s` in `t`: the parameters `added`, and the fragments `texts`, which
are read as `φs`. -/
structure Told (d : Dialect) (fs : List Filter) (s t : Statement) (added : List Binding)
    (texts : List String) (φs : List (Formula String)) : Prop where
  dialect : t.dialect = some d
  parameters : t.parameters = s.parameters ++ added
  contents : added.map Binding.content = fs.flatMap bound
  plain : ∀ b ∈ added, Plain b.name
  fragments : t.fragments = s.fragments ++ texts
  silent : texts = [] ↔ ∀ f ∈ fs, ¬ f.Demanding
  reads : List.Forall₂ (Disjunction d) texts φs
  means : ∀ (α : Type) [Lattice α] [BoundedOrder α] (v : Atom String → α),
    allOf (φs.map (Formula.eval v)) = allHold v (d.markerAt s.parameters.length added) fs

variable {d : Dialect} {fs : List Filter} {s t : Statement}

/-- The texts of filters are read as what the filters demand, with the markers that stand in
them. -/
theorem renders_disjunctions (complete : ∀ f ∈ fs, f.Complete) {p : Nat → String}
    (h : Marks d p (fs.flatMap bound).length) :
    ∃ φs, List.Forall₂ (Disjunction d)
        ((Clause.renders p (fs.map (clause d))).filter (· ≠ "")) φs ∧
      ((Clause.renders p (fs.map (clause d))).filter (· ≠ "") = [] ↔ ∀ f ∈ fs, ¬ f.Demanding) ∧
      ∀ (α : Type) [Lattice α] [BoundedOrder α] (v : Atom String → α),
        allOf (φs.map (Formula.eval v)) = allHold v p fs := by
  induction fs generalizing p with
  | nil => exact ⟨[], .nil, by simp [Clause.renders], fun _ _ _ _ => rfl⟩
  | cons f fs ih =>
    rw [List.flatMap_cons, List.length_append] at h
    have width : (f.clause d).bindings.length = f.bound.length := by
      rw [f.clause_bindings d]
    -- The values of the other filters are numbered behind those of this one.
    obtain ⟨φs, reads, silent, means⟩ :=
      ih (fun g hg => complete g (List.mem_cons_of_mem f hg)) h.right
    rw [List.map_cons, Clause.renders, width]
    rcases clause_cases (complete f List.mem_cons_self) d with
      ⟨undemanding, empty⟩ | ⟨demanding, visible⟩
    · have none : f.bound = [] := by
        rw [← f.clause_bindings d, empty]
      have unsaid : (f.clause d).render p = "" := by
        rw [empty]
        rfl
      rw [List.filter_cons_of_neg (by simp [unsaid])]
      refine ⟨φs, reads, ?_, fun α _ _ v => ?_⟩
      · rw [silent, List.forall_mem_cons]
        exact ⟨fun others => ⟨undemanding, others⟩, fun all => all.2⟩
      · rw [means, allHold, holds_of_not_demanding undemanding, top_inf_eq]
    · obtain ⟨φ, read, meant⟩ :=
        clause_condition (complete f List.mem_cons_self) demanding h.left
      rw [List.filter_cons_of_pos (by simp [visible p])]
      refine ⟨φ :: φs, .cons read reads, ?_, fun α _ _ v => ?_⟩
      · simp [demanding]
      · rw [List.map_cons, allOf_cons, means, meant, allHold]

/-- What filters add is read as what they demand. -/
theorem appendAll_told (hd : s.dialect = some d) (stem : Plain s.registry.stem)
    (h : appendAll s fs = .ok t) : ∃ added texts φs, Told d fs s t added texts φs := by
  obtain ⟨added, gained⟩ := appendAll_added hd h
  have plain : ∀ b ∈ added, Plain b.name := by
    intro b hb
    obtain ⟨k, hk⟩ := gained.named b hb
    exact hk ▸ stem.append (plain_numeral k)
  have marked := marks_markerAt d s.parameters.length plain
  have width : added.length = (fs.flatMap bound).length := by
    rw [← gained.contents, List.length_map]
  rw [width] at marked
  obtain ⟨φs, reads, silent, means⟩ := renders_disjunctions gained.complete marked
  exact ⟨added, _, φs, gained.dialect, gained.parameters, gained.contents, plain,
    gained.fragments, silent, reads, means⟩

theorem appendAll_reachable {fs : List Filter} {s t : Statement} (hs : s.Reachable)
    (h : appendAll s fs = .ok t) : t.Reachable := by
  induction fs generalizing s with
  | nil =>
    cases h
    exact hs
  | cons f fs ih =>
    exact ih (hs.step (.append s f)) (appendAll_cons_eq_ok.mp h).2

end Filter

/-- Texts are joined to a condition that is read as all of them. -/
theorem conjoined_disjunction {d : Dialect} {texts : List String} {φs : List (Formula String)}
    (any : texts ≠ []) (h : List.Forall₂ (Disjunction d) texts φs) :
    ∃ φ, Disjunction d (d.conjoined texts) φ ∧
      ∀ (α : Type) [Lattice α] [BoundedOrder α] (v : Atom String → α),
        φ.eval v = allOf (φs.map (Formula.eval v)) := by
  cases h with
  | nil => exact absurd rfl any
  | @cons only φ rest φs first others =>
    cases rest with
    | nil =>
      cases others
      exact ⟨φ, first, by simp⟩
    | cons other rest =>
      have operands : List.Forall₂ (Operand d)
          ((other :: rest).map Statement.parenthesized) φs := by
        rw [List.forall₂_map_left_iff]
        exact others.imp fun _ _ read => read.parenthesized
      have joined := (first.parenthesized.conjunction.all operands).disjunction
      exact ⟨φ.all φs, joined, fun α _ _ v => Formula.eval_all v φ φs⟩

theorem Sql.Disjunction.ne_empty {d : Dialect} {text : String} {φ : Formula String}
    (h : Disjunction d text φ) : text ≠ "" := by
  rintro rfl
  have unread : Sql.read d "" = none := rfl
  rw [h.read] at unread
  cases unread

/-- The query of filters in a new statement selects from the entity's table.  It has a condition
just when some filter demands something, and then the condition is read as what all filters demand,
with the marker of the `k`-th parameter for their `k`-th value.  The truth of the atoms is
arbitrary, in two values, three or any other bounded lattice. -/
theorem query_means_filters (e : Entity) (d : Dialect) {stem : String}
    (identifier : Config.isIdentifier stem = true) {fs : List Filter} {s : Statement}
    (appended : Filter.appendAll ((Statement.new d).setStem stem) fs = .ok s) :
    ∃ q, s.finishSelect e = .ok q ∧
      q.parameters.map Binding.content = fs.flatMap Filter.bound ∧
      (d.markers 0 q.parameters).Nodup ∧
      ((∀ f ∈ fs, ¬ f.Demanding) → q.sql = "SELECT * FROM " ++ d.identifier e.nativeName) ∧
      ((∃ f ∈ fs, f.Demanding) → ∃ condition φ,
        q.sql = "SELECT * FROM " ++ d.identifier e.nativeName ++ " WHERE " ++ condition ∧
        Sql.read d condition = some φ ∧
        ∀ (α : Type) [Lattice α] [BoundedOrder α] (v : Atom String → α),
          φ.eval v = Filter.allHold v (d.markerAt 0 q.parameters) fs) := by
  obtain ⟨added, texts, φs, told⟩ :=
    Filter.appendAll_told rfl (plain_of_isIdentifier identifier) appended
  have fresh := (Statement.Reachable.new d).step (.perform _ (.setStem stem))
  have distinct := d.markers_nodup 0 (Filter.appendAll_reachable fresh appended).coherent.distinct
  have parameters : s.parameters = added := told.parameters
  have fragments : s.fragments = texts := told.fragments
  refine ⟨_, Statement.finishSelect_eq told.dialect e, parameters ▸ told.contents, distinct, ?_⟩
  rw [fragments]
  by_cases silent : texts = []
  · refine ⟨fun _ => by simp [silent, Dialect.conjoined], ?_⟩
    rintro ⟨f, hf, demanding⟩
    exact absurd demanding (told.silent.mp silent f hf)
  · obtain ⟨φ, read, meant⟩ := conjoined_disjunction silent told.reads
    refine ⟨fun none => absurd (told.silent.mpr none) silent,
      fun _ => ⟨d.conjoined texts, φ, ?_, read.read, ?_⟩⟩
    · rw [if_neg read.ne_empty, ← String.append_assoc]
    · intro α _ _ v
      rw [meant, told.means, parameters]
      rfl

/-- A search in a column whose name has a quote and a keyword in it, and a choice of two more
demands. -/
theorem query_means_filters_search :
    ∃ f s q condition φ,
      Filter.appendAll ((Statement.new .postgres).setStem "p") [f] = .ok s ∧
      s.finishSelect ⟨"person", "people", []⟩ = .ok q ∧
      q.sql = "SELECT * FROM " ++ Dialect.postgres.identifier "people" ++ " WHERE " ++ condition ∧
      Sql.read .postgres condition = some φ ∧
      ∀ (α : Type) [Lattice α] [BoundedOrder α] (v : Atom String → α),
        φ.eval v = (v (.between "age" "$1" "$2") ⊔ v (.isNull "first \" AND")) ⊓
          v (.freeText "first \" AND" "$3") := by
  have appended : Filter.appendAll ((Statement.new .postgres).setStem "p")
      [.freeText {
        base := {
          entity := ⟨"person", "people", []⟩
          fields := ⟨[⟨"age", "age", .integer⟩, ⟨"name", "first \" AND", .text⟩]⟩
          criteria := [("age", .between (.integer 1) (.integer 9)), ("first \" AND", .isNull)]
          mode := .any }
        searchFields := ⟨[⟨"name", "first \" AND", .text⟩]⟩
        terms := some "x" }] = .ok _ := rfl
  obtain ⟨q, finished, contents, -, -, said⟩ :=
    query_means_filters ⟨"person", "people", []⟩ .postgres (by decide) appended
  obtain ⟨condition, φ, sql, read, meant⟩ := said ⟨_, List.mem_cons_self, trivial⟩
  refine ⟨_, _, q, condition, φ, appended, finished, sql, read, fun α _ _ v => ?_⟩
  obtain ⟨a, b, c, three⟩ : ∃ a b c, q.parameters = [a, b, c] := by
    refine List.length_eq_three.mp ?_
    rw [← List.length_map (f := Binding.content), contents]
    rfl
  have numbers : Dialect.postgres.markers 0 [a, b, c] = ["$1", "$2", "$3"] := by
    simp only [Dialect.markers, numbered, Dialect.marker, List.map_cons, List.map_nil]
    decide
  have marked : Dialect.postgres.markerAt 0 [a, b, c] = fun k => ["$1", "$2", "$3"].getD k "" := by
    funext k
    rw [Dialect.markerAt, numbers]
  rw [meant, three, marked]
  show (anyOf [v (.between "age" "$1" "$2"), v (.isNull "first \" AND")] ⊓
    anyOf [v (.freeText "first \" AND" "$3")]) ⊓ ⊤ = _
  simp [anyOf]

end EntityFilter
