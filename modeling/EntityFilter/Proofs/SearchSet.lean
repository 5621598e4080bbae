import EntityFilter.Proofs.Settings

/-!
The columns that a search looks in.  They are textual and distinct, whatever is tried; once all
textual columns have been added, nothing changes them any more.
-/

namespace EntityFilter

namespace FieldSet

variable {s : FieldSet} {fs : List Field}

theorem fields_addAll (distinct : (s.fields.map Field.nativeName).Nodup) (fs : List Field) :
    (s.addAll fs).fields = earliestBy Field.nativeName (s.fields ++ fs) := by
  induction fs using List.reverseRecOn with
  | nil =>
    rw [List.append_nil, earliestBy_eq_self distinct]
    rfl
  | append_singleton fs field ih =>
    rw [addAll, List.foldl_append, ← List.append_assoc]
    exact fields_add ih field

/-- The fields that there are stay in place; behind them come the first fields of the columns that
are new. -/
theorem fields_addAll_eq_append (distinct : (s.fields.map Field.nativeName).Nodup)
    (fs : List Field) : (s.addAll fs).fields = s.fields ++ earliestBy Field.nativeName
      (fs.filter fun field => field.nativeName ∉ s.fields.map Field.nativeName) := by
  rw [fields_addAll distinct, earliestBy_append, earliestBy_eq_self distinct]

theorem addAll_of_covered (distinct : (s.fields.map Field.nativeName).Nodup)
    (h : ∀ field ∈ fs, field.nativeName ∈ s.fields.map Field.nativeName) : s.addAll fs = s := by
  have none : fs.filter (fun field => field.nativeName ∉ s.fields.map Field.nativeName) = [] := by
    rw [List.filter_eq_nil_iff]
    intro field member
    simpa using h field member
  have same := fields_addAll_eq_append distinct fs
  rw [none] at same
  exact congrArg mk (same.trans (List.append_nil _))

end FieldSet

namespace FreeTextFilter

/-- The columns that are searched, in order. -/
def columns (f : FreeTextFilter) : List String := f.searchFields.fields.map Field.nativeName

/-- A filter searches textual columns of the entity, each once. -/
structure Searches (e : Entity) (f : FreeTextFilter) : Prop where
  entity : f.base.entity = e
  textual : f.searchFields.fields ⊆ e.textFields
  distinct : f.columns.Nodup

/-- A filter searches every textual column of the entity. -/
def Covers (e : Entity) (f : FreeTextFilter) : Prop :=
  ∀ field ∈ e.textFields, field.nativeName ∈ f.columns

variable {e : Entity} {f g : FreeTextFilter} {c : Setting} {name : String}

theorem addField_of_none (h : f.base.entity.field? name = none) :
    f.addField name = .error (.unknownField f.base.entity.name name) := by
  rw [addField, FieldFilter.resolve_of_none h]
  rfl

theorem addField_of_some {field : Field} (h : f.base.entity.field? name = some field) :
    f.addField name =
      if field.kind.isTextual then .ok { f with searchFields := f.searchFields.add field }
      else .error (.unsupportedFieldKind field.name field.kind .freeTextSearch) := by
  rw [addField, FieldFilter.resolve_eq_ok.mpr h]
  rfl

/-- A name is refused just when it is of no field, or of one that is not textual. -/
theorem addField_eq_error_iff {error : FilterError} : f.addField name = .error error ↔
    f.base.entity.field? name = none ∧ error = .unknownField f.base.entity.name name ∨
    ∃ field, f.base.entity.field? name = some field ∧ field.kind.isTextual = false ∧
      error = .unsupportedFieldKind field.name field.kind .freeTextSearch := by
  cases found : f.base.entity.field? name with
  | none =>
    rw [addField_of_none found, Except.error.injEq]
    constructor
    · intro same
      exact .inl ⟨rfl, same.symm⟩
    · rintro (⟨-, same⟩ | ⟨field, known, -⟩)
      · exact same.symm
      · cases known
  | some field =>
    rw [addField_of_some found]
    constructor
    · intro refused
      split at refused
      · cases refused
      · rename_i textless
        cases refused
        exact .inr ⟨field, rfl, Bool.eq_false_iff.mpr textless, rfl⟩
    · rintro (⟨unknown, -⟩ | ⟨_, ⟨⟩, textless, rfl⟩)
      · cases unknown
      · rw [textless, if_neg Bool.false_ne_true]

/-- A setting adds textual fields to a search, which may be none. -/
theorem extended_of_configure (h : f.configure c = .ok g) : g.base.entity = f.base.entity ∧
    ∃ fs ⊆ f.base.entity.textFields, g.searchFields = f.searchFields.addAll fs := by
  rcases of_configure_eq_ok h with ⟨b, base, changed, rfl⟩ | ⟨fs, textual, rfl⟩ | ⟨terms, rfl⟩
  · exact ⟨FieldFilter.configure_entity changed, [], List.nil_subset _, rfl⟩
  · exact ⟨rfl, fs, textual, rfl⟩
  · exact ⟨rfl, [], List.nil_subset _, rfl⟩

theorem Searches.new (e : Entity) : Searches e (new e) := ⟨rfl, List.nil_subset _, List.nodup_nil⟩

/-- Textual fields of the entity can be added to a search. -/
theorem Searches.extend (h : Searches e f) (entity : g.base.entity = f.base.entity)
    {fs : List Field} (textual : fs ⊆ e.textFields)
    (added : g.searchFields = f.searchFields.addAll fs) : Searches e g where
  entity := entity.trans h.entity
  textual field member := by
    rw [added, FieldSet.fields_addAll h.distinct] at member
    rcases List.mem_append.mp (mem_of_mem_earliestBy member) with before | later
    · exact h.textual before
    · exact textual later
  distinct := by
    rw [columns, added, FieldSet.fields_addAll h.distinct]
    exact nodup_map_earliestBy Field.nativeName _

/-- A setting keeps a search on textual columns. -/
theorem Searches.step (h : Searches e f) (set : f.configure c = .ok g) : Searches e g := by
  obtain ⟨entity, fs, textual, added⟩ := extended_of_configure set
  rw [h.entity] at textual
  exact h.extend entity textual added

theorem Searches.run (h : Searches e f) (cs : List Setting) : Searches e (tried configure f cs) :=
  tried_keeps (fun _ _ _ before set => before.step set) h cs

theorem Searches.addAll (h : Searches e f) : Searches e f.addAllTextFields :=
  h.step (c := .addAllTextFields) rfl

theorem Searches.covers_addAll (h : Searches e f) : Covers e f.addAllTextFields := by
  intro field member
  rw [columns, addAllTextFields, FieldSet.fields_addAll h.distinct, mem_map_earliestBy, h.entity]
  exact List.mem_map_of_mem (List.mem_append_right _ member)

/-- A search of all textual columns is not extended any more. -/
theorem Searches.addAll_of_covers (h : Searches e f) (covers : Covers e f) {fs : List Field}
    (textual : fs ⊆ e.textFields) : f.searchFields.addAll fs = f.searchFields :=
  FieldSet.addAll_of_covered h.distinct fun field member => covers field (textual member)

theorem Searches.settled_step (h : Searches e f) (covers : Covers e f)
    (set : f.configure c = .ok g) : g.searchFields = f.searchFields := by
  obtain ⟨-, fs, textual, added⟩ := extended_of_configure set
  rw [h.entity] at textual
  rw [added, h.addAll_of_covers covers textual]

theorem Covers.congr (h : Covers e f) (same : g.searchFields = f.searchFields) : Covers e g := by
  rw [Covers, columns, same]
  exact h

theorem Searches.settled (h : Searches e f) (covers : Covers e f) (later : List Setting) :
    (tried configure f later).searchFields = f.searchFields := by
  have kept : Searches e (tried configure f later) ∧
      (tried configure f later).searchFields = f.searchFields := by
    apply tried_keeps (P := fun g => Searches e g ∧ g.searchFields = f.searchFields) _ ⟨h, rfl⟩
    rintro g c g' ⟨before, same⟩ set
    exact ⟨before.step set, (before.settled_step (covers.congr same) set).trans same⟩
  exact kept.2

/-- What is searched in the end is the same for all filters that search all of it. -/
theorem Searches.columns_perm (h : Searches e f) (covers : Covers e f) :
    f.columns.Perm (e.textFields.map Field.nativeName).dedup := by
  rw [List.perm_ext_iff_of_nodup h.distinct (List.nodup_dedup _)]
  intro column
  rw [List.mem_dedup]
  constructor
  · exact fun member => List.map_subset _ h.textual member
  · intro member
    obtain ⟨field, textual, rfl⟩ := List.mem_map.mp member
    exact covers field textual

/-- How a search comes to its columns. -/
structure SearchSet (e : Entity) (f : FreeTextFilter) : Prop where
  /-- A name is refused when it is of no field or not of a textual one. -/
  refused : ∀ name error, f.addField name = .error error ↔
    e.field? name = none ∧ error = .unknownField e.name name ∨
    ∃ field, e.field? name = some field ∧ field.kind.isTextual = false ∧
      error = .unsupportedFieldKind field.name field.kind .freeTextSearch
  /-- Then nothing changes. -/
  unchanged : ∀ c error later, f.configure c = .error error →
    tried configure f (c :: later) = tried configure f later
  textual : f.searchFields.fields ⊆ e.textFields
  distinct : f.columns.Nodup
  /-- The fields that there are stay in place; behind them come the first textual fields of the
  other columns, as they are declared. -/
  completed : f.addAllTextFields.searchFields.fields = f.searchFields.fields ++
    earliestBy Field.nativeName (e.textFields.filter fun field => field.nativeName ∉ f.columns)
  covered : Covers e f.addAllTextFields
  /-- All textual fields are added once. -/
  again : f.addAllTextFields.addAllTextFields = f.addAllTextFields
  /-- No single field is added after them. -/
  absorbed : ∀ name g, f.addAllTextFields.addField name = .ok g → g = f.addAllTextFields
  settled : ∀ later,
    (tried configure f.addAllTextFields later).searchFields = f.addAllTextFields.searchFields
  /-- The columns are the same whether all textual fields are added before other settings or after
  them. -/
  anytime : ∀ later, (tried configure f.addAllTextFields later).columns.Perm
    (tried configure f later).addAllTextFields.columns

theorem Searches.searchSet (h : Searches e f) : SearchSet e f where
  refused name error := by
    rw [addField_eq_error_iff, h.entity]
  unchanged c error later refused := tried_of_error refused later
  textual := h.textual
  distinct := h.distinct
  completed := by
    rw [addAllTextFields, FieldSet.fields_addAll_eq_append h.distinct, h.entity]
    rfl
  covered := h.covers_addAll
  again := by
    have same := h.addAll.addAll_of_covers h.covers_addAll (List.Subset.refl _)
    rw [← h.addAll.entity] at same
    rw [addAllTextFields, same]
  absorbed name g added := by
    obtain ⟨field, textual, rfl⟩ := field_of_addField added
    rw [h.addAll.entity] at textual
    have one : [field] ⊆ e.textFields := List.cons_subset.mpr ⟨textual, List.nil_subset _⟩
    have same := h.addAll.addAll_of_covers h.covers_addAll one
    rw [FieldSet.addAll, List.foldl_cons, List.foldl_nil] at same
    rw [same]
  settled later := h.addAll.settled h.covers_addAll later
  anytime later := by
    have covers : Covers e (tried configure f.addAllTextFields later) :=
      h.covers_addAll.congr (h.addAll.settled h.covers_addAll later)
    have before := (h.addAll.run later).columns_perm covers
    have after := (h.run later).addAll.columns_perm (h.run later).covers_addAll
    exact before.trans after.symm

/-- Whatever is tried on a new search, it searches textual columns, each once, and all of them when
all textual fields have been added. -/
theorem searchSet_tried (e : Entity) (cs : List Setting) :
    SearchSet e (tried configure (new e) cs) :=
  ((Searches.new e).run cs).searchSet

/-- A column that is declared as a number first and as a text after it, and one of two texts. -/
theorem searchSet_tried_synonyms :
    ∃ (e : Entity) (f : FreeTextFilter), SearchSet e f ∧
      f.addField "Id" = .error (.unsupportedFieldKind "Id" .integer .freeTextSearch) ∧
      f.searchFields.fields.map Field.name = ["Name"] ∧
      f.addAllTextFields.searchFields.fields.map Field.name = ["Name", "Label"] ∧
      f.addAllTextFields.addField "Title" = .ok f.addAllTextFields ∧
      (tried configure (new e).addAllTextFields [.addField "Id", .addField "Name"]).columns =
        ["id", "name"] ∧
      f.addAllTextFields.columns = ["name", "id"] := by
  let e : Entity := ⟨"Widget", "widgets", [⟨"Id", "id", .integer⟩, ⟨"Label", "id", .text⟩,
    ⟨"Title", "name", .text⟩, ⟨"Name", "name", .ansiText⟩]⟩
  let names : List Setting := [.addField "Id", .addField "Name"]
  let f := tried configure (new e) names
  have search : SearchSet e f := searchSet_tried e names
  have title : f.addAllTextFields.addField "Title" = .ok f.addAllTextFields := by
    cases added : f.addAllTextFields.addField "Title" with
    | error error => cases added
    | ok g => rw [search.absorbed "Title" g added]
  exact ⟨e, f, search, rfl, rfl, rfl, title, rfl, rfl⟩

end FreeTextFilter
end EntityFilter
