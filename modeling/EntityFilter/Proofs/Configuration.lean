import EntityFilter.Proofs.Keyed
import EntityFilter.Proofs.Outcome
import EntityFilter.Proofs.Template

/-!
How field filters are configured.  A filter keeps the first field that is mentioned of each column,
and the last criterion that is stated for it.
-/

namespace EntityFilter

namespace FieldSet

variable {s : FieldSet} {fs : List Field}

theorem contains_iff {column : String} :
    s.contains column = true ↔ column ∈ s.fields.map Field.nativeName := by
  simp [contains]

/-- A set keeps the first field of each column that was added to it. -/
theorem fields_add (h : s.fields = earliestBy Field.nativeName fs) (field : Field) :
    (s.add field).fields = earliestBy Field.nativeName (fs ++ [field]) := by
  have before : s.contains field.nativeName = true ↔
      field.nativeName ∈ fs.map Field.nativeName := by
    rw [contains_iff, h, mem_map_earliestBy]
  rw [earliestBy_concat, ← h, add]
  by_cases again : s.contains field.nativeName = true
  · rw [if_pos again, if_pos (before.mp again)]
  · rw [if_neg again, if_neg (mt before.mpr again)]

end FieldSet

/-- A field that a filter is told of, and what is demanded of it, if anything is. -/
structure Mention where
  field : Field
  criterion? : Option Criterion

/-- What mentions state, by column, in the order in which they state it. -/
def stated (ms : List Mention) : List (String × Criterion) :=
  ms.filterMap fun m => m.criterion?.map (m.field.nativeName, ·)

namespace FieldFilter

variable {f g : FieldFilter} {m : Mention} {ms : List Mention}

def mention (f : FieldFilter) (m : Mention) : FieldFilter :=
  { f with
    fields := f.fields.add m.field
    criteria := match m.criterion? with
      | some c => putCriterion m.field.nativeName c f.criteria
      | none => f.criteria }

theorem resolve_eq_ok {name : String} {field : Field} :
    f.resolve name = .ok field ↔ f.entity.field? name = some field := by
  rw [resolve]
  cases f.entity.field? name <;> simp

theorem mention_of_addField {name : String} (h : f.addField name = .ok g) :
    ∃ field, f.entity.field? name = some field ∧ g = f.mention ⟨field, none⟩ := by
  obtain ⟨field, found, ⟨⟩⟩ := bind_eq_ok.mp h
  exact ⟨field, resolve_eq_ok.mp found, rfl⟩

theorem mention_of_setCriterion {name : String} {c : Criterion}
    (h : f.setCriterion name c = .ok g) :
    ∃ field, f.entity.field? name = some field ∧ g = f.mention ⟨field, some c⟩ := by
  obtain ⟨field, found, ⟨⟩⟩ := bind_eq_ok.mp h
  exact ⟨field, resolve_eq_ok.mp found, rfl⟩

/-- Steps that mention a field each are as many mentions. -/
theorem mentions_of_foldlM {α : Type} {step : FieldFilter → α → Except FilterError FieldFilter}
    {R : Entity → α → Mention → Prop}
    (mentions : ∀ f a g, step f a = .ok g → ∃ m, R f.entity a m ∧ g = f.mention m) {as : List α}
    (h : as.foldlM step f = .ok g) :
    ∃ ms, List.Forall₂ (R f.entity) as ms ∧ g = ms.foldl mention f := by
  induction as generalizing f with
  | nil =>
    cases h
    exact ⟨[], .nil, rfl⟩
  | cons a as ih =>
    obtain ⟨f', first, rest⟩ := foldlM_cons_eq_ok.mp h
    obtain ⟨m, said, rfl⟩ := mentions f a f' first
    obtain ⟨ms, others, rfl⟩ := ih rest
    exact ⟨m :: ms, .cons said others, rfl⟩

theorem foldl_mention (f : FieldFilter) (ms : List Mention) :
    (ms.foldl mention f).entity = f.entity ∧ (ms.foldl mention f).mode = f.mode := by
  induction ms generalizing f with
  | nil => exact ⟨rfl, rfl⟩
  | cons m ms ih => exact ih (f.mention m)

theorem lookup_putCriterion (column k : String) (c : Criterion)
    (criteria : List (String × Criterion)) :
    (putCriterion column c criteria).lookup k = ((column, c) :: criteria).lookup k := by
  induction criteria with
  | nil => rfl
  | cons old rest ih =>
    obtain ⟨column', c'⟩ := old
    rw [putCriterion]
    by_cases same : column' = column
    · subst same
      rw [if_pos rfl, List.lookup_cons, List.lookup_cons, List.lookup_cons]
      cases k == column' <;> rfl
    · rw [if_neg same, List.lookup_cons, ih, List.lookup_cons, List.lookup_cons, List.lookup_cons]
      by_cases here : k = column'
      · subst here
        rw [beq_self_eq_true, beq_false_of_ne same]
      · rw [beq_false_of_ne here]

theorem keys_putCriterion (column : String) (c : Criterion)
    (criteria : List (String × Criterion)) :
    (putCriterion column c criteria).map Prod.fst =
      if column ∈ criteria.map Prod.fst then criteria.map Prod.fst
      else criteria.map Prod.fst ++ [column] := by
  induction criteria with
  | nil => rfl
  | cons old rest ih =>
    obtain ⟨column', c'⟩ := old
    rw [putCriterion]
    by_cases same : column' = column
    · subst same
      rw [if_pos rfl, if_pos (by simp)]
      rfl
    · rw [if_neg same, List.map_cons, List.map_cons, ih]
      by_cases known : column ∈ rest.map Prod.fst
      · rw [if_pos known, if_pos (List.mem_cons_of_mem _ known)]
      · rw [if_neg known, if_neg (by simp [known, Ne.symm same]), List.cons_append]

/-- No column gets two criteria. -/
theorem nodup_keys_putCriterion (column : String) (c : Criterion)
    {criteria : List (String × Criterion)} (h : (criteria.map Prod.fst).Nodup) :
    ((putCriterion column c criteria).map Prod.fst).Nodup := by
  rw [keys_putCriterion]
  split
  · exact h
  · rename_i fresh
    rw [← List.concat_eq_append]
    exact h.concat fresh

/-- A filter has been told of the mentions, and of nothing else. -/
structure Follows (f : FieldFilter) (ms : List Mention) : Prop where
  fields : f.fields.fields = earliestBy Field.nativeName (ms.map Mention.field)
  criteria : ∀ column, f.criteria.lookup column = (stated ms).reverse.lookup column

theorem Follows.new (e : Entity) (mode : MatchMode) : Follows ((new e).setMode mode) [] where
  fields := rfl
  criteria _ := rfl

/-- One more mention keeps a filter in line with what it was told. -/
theorem Follows.mention (h : Follows f ms) (m : Mention) :
    Follows (f.mention m) (ms ++ [m]) where
  fields := by
    rw [List.map_append, List.map_singleton]
    exact FieldSet.fields_add h.fields m.field
  criteria column := by
    rw [stated, List.filterMap_append, List.reverse_append]
    obtain ⟨field, _ | c⟩ := m
    · exact h.criteria column
    · show (putCriterion field.nativeName c f.criteria).lookup column = _
      rw [lookup_putCriterion, List.lookup_cons, h.criteria column]
      rfl

theorem Follows.foldl (h : Follows f ms) (later : List Mention) :
    Follows (later.foldl FieldFilter.mention f) (ms ++ later) := by
  induction later generalizing f ms with
  | nil =>
    rw [List.append_nil]
    exact h
  | cons m later ih =>
    rw [List.foldl_cons, List.append_cons]
    exact ih (h.mention m)

theorem mem_demands {field : Field} {c : Criterion} :
    (field, c) ∈ f.demands ↔ field ∈ f.fields.fields ∧ f.criterionOn field = some c := by
  simp only [demands, List.mem_filterMap, Option.map_eq_some_iff, Prod.mk.injEq]
  constructor
  · rintro ⟨_, member, _, found, rfl, rfl⟩
    exact ⟨member, found⟩
  · rintro ⟨member, found⟩
    exact ⟨field, member, c, found, rfl, rfl⟩

/-- A demand is on a field that was mentioned, with what was last stated for its column. -/
theorem Follows.of_mem_demands (h : Follows f ms) {field : Field} {c : Criterion}
    (demand : (field, c) ∈ f.demands) :
    field ∈ ms.map Mention.field ∧ (field.nativeName, c) ∈ latestBy Prod.fst (stated ms) := by
  obtain ⟨member, found⟩ := FieldFilter.mem_demands.mp demand
  rw [h.fields] at member
  rw [criterionOn, h.criteria] at found
  exact ⟨mem_of_mem_earliestBy member, mem_latestBy_iff.mpr found⟩

theorem mem_columns_of_mem_stated {column : String} {c : Criterion}
    (h : (column, c) ∈ stated ms) : column ∈ (ms.map Mention.field).map Field.nativeName := by
  obtain ⟨m, member, said⟩ := List.mem_filterMap.mp h
  obtain ⟨c', -, same⟩ := Option.map_eq_some_iff.mp said
  obtain ⟨rfl, rfl⟩ := Prod.mk.inj same
  exact List.mem_map_of_mem (List.mem_map_of_mem member)

theorem Follows.demands_nodup (h : Follows f ms) :
    (f.demands.map fun p => (p.1.nativeName, p.2)).Nodup := by
  have columns := nodup_map_earliestBy Field.nativeName (ms.map Mention.field)
  rw [← h.fields, List.Nodup, List.pairwise_map] at columns
  rw [List.Nodup, List.pairwise_map, demands, List.pairwise_filterMap]
  refine columns.imp fun differ p hp q hq => ?_
  obtain ⟨c, -, rfl⟩ := Option.map_eq_some_iff.mp hp
  obtain ⟨c', -, rfl⟩ := Option.map_eq_some_iff.mp hq
  intro same
  exact differ (Prod.mk.inj same).1

/-- The demands of a filter are what was last stated for each column. -/
theorem Follows.demands_perm (h : Follows f ms) :
    (f.demands.map fun p => (p.1.nativeName, p.2)).Perm (latestBy Prod.fst (stated ms)) := by
  have latest : (latestBy Prod.fst (stated ms)).Nodup := by
    refine List.Nodup.of_map Prod.fst ?_
    rw [map_latestBy]
    exact List.nodup_dedup _
  -- Both sides have one entry for each column, so it is enough that they have the same entries.
  rw [List.perm_ext_iff_of_nodup h.demands_nodup latest]
  rintro ⟨column, c⟩
  constructor
  · intro member
    obtain ⟨⟨field, c'⟩, demand, same⟩ := List.mem_map.mp member
    obtain ⟨rfl, rfl⟩ := Prod.mk.inj same
    exact (h.of_mem_demands demand).2
  · intro member
    have mentioned := mem_columns_of_mem_stated ((latestBy_sublist _ _).subset member)
    rw [← mem_map_earliestBy, ← h.fields] at mentioned
    obtain ⟨field, known, rfl⟩ := List.mem_map.mp mentioned
    have found : f.criterionOn field = some c := by
      rw [criterionOn, h.criteria, mem_latestBy_iff.mp member]
    exact List.mem_map.mpr ⟨(field, c), FieldFilter.mem_demands.mpr ⟨known, found⟩, rfl⟩

end FieldFilter
end EntityFilter
