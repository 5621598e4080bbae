import EntityFilter.Proofs.Configuration
import EntityFilter.Proofs.Once

/-!
Field filters after any number of settings, those that failed among them.  A filter sums up what it
was told: of each column the field that was mentioned first, the criterion that was stated last, and
the last mode.
-/

namespace EntityFilter

/-- What becomes of `f` when changes are tried one after the other.  One that fails changes
nothing. -/
def tried {F C : Type} (change : F → C → Except FilterError F) (f : F) (cs : List C) : F :=
  cs.foldl (fun f c => (change f c).toOption.getD f) f

section Tried

variable {F C : Type} {change : F → C → Except FilterError F} {f g : F} {c : C}

theorem tried_append (change : F → C → Except FilterError F) (f : F) (as bs : List C) :
    tried change f (as ++ bs) = tried change (tried change f as) bs :=
  List.foldl_append

theorem tried_of_ok (h : change f c = .ok g) : tried change f [c] = g := by
  simp [tried, h, Except.toOption]

theorem tried_of_error {e : FilterError} (h : change f c = .error e) (later : List C) :
    tried change f (c :: later) = tried change f later := by
  simp [tried, h, Except.toOption]

/-- What every change keeps is true in the end. -/
theorem tried_keeps {P : F → Prop} (step : ∀ f c g, P f → change f c = .ok g → P g) (h : P f)
    (cs : List C) : P (tried change f cs) := by
  induction cs generalizing f with
  | nil => exact h
  | cons c cs ih =>
    cases changed : change f c with
    | error e =>
      rw [tried_of_error changed]
      exact ih h
    | ok g =>
      rw [← List.singleton_append, tried_append, tried_of_ok changed]
      exact ih (step f c g h changed)

end Tried

namespace FieldFilter

namespace Setting

/-- The name by which a setting mentions a field. -/
def name? : Setting → Option String
  | addField name | setCriterion name _ => some name
  | setMode _ => none

def criterion? : Setting → Option Criterion
  | setCriterion _ c => some c
  | addField _ | setMode _ => none

def mode? : Setting → Option MatchMode
  | setMode mode => some mode
  | addField _ | setCriterion _ _ => none

/-- What a setting mentions, if there is a field of the name. -/
def mention? (e : Entity) (c : Setting) : Option Mention :=
  (c.name?.bind e.field?).map (⟨·, c.criterion?⟩)

end Setting

/-- The mentions of the settings that do not fail. -/
def mentions (e : Entity) (cs : List Setting) : List Mention := cs.filterMap (Setting.mention? e)

/-- The first field of each column that settings mention, in the order of these mentions. -/
def firstMentioned (e : Entity) (cs : List Setting) : List Field :=
  earliestBy Field.nativeName ((mentions e cs).map Mention.field)

/-- The criterion that settings state last for a column. -/
def lastCriterion? (e : Entity) (cs : List Setting) (column : String) : Option Criterion :=
  (stated (mentions e cs)).reverse.lookup column

def lastMode (cs : List Setting) : MatchMode := (cs.filterMap Setting.mode?).getLast?.getD .all

/-- The fields that settings leave with a criterion, in the order of their first mention. -/
def demanded (e : Entity) (cs : List Setting) : List (Field × Criterion) :=
  (firstMentioned e cs).filterMap fun field =>
    (lastCriterion? e cs field.nativeName).map (field, ·)

/-- The text that a filter has in an emission. -/
def rendered (f : FieldFilter) (em : Emission) : String :=
  (f.clause em.dialect).fill (em.bindAll (f.clause em.dialect).bindings).1

variable {e : Entity} {cs : List Setting} {f g : FieldFilter}

theorem resolve_of_none {name : String} (h : f.entity.field? name = none) :
    f.resolve name = .error (.unknownField f.entity.name name) := by
  rw [resolve, h]

/-- A setting with a name looks up the field and mentions it. -/
theorem configure_of_name (f : FieldFilter) {c : Setting} {name : String}
    (h : c.name? = some name) : c.mode? = none ∧
      f.configure c = (f.resolve name).map fun field => f.mention ⟨field, c.criterion?⟩ := by
  cases c with
  | addField name =>
    cases h
    refine ⟨rfl, ?_⟩
    rw [configure, addField]
    cases f.resolve name <;> rfl
  | setCriterion name criterion =>
    cases h
    refine ⟨rfl, ?_⟩
    rw [configure, setCriterion]
    cases f.resolve name <;> rfl
  | setMode mode => cases h

/-- A setting fails for want of a field, mentions a field, or sets the mode. -/
theorem configure_cases (f : FieldFilter) (c : Setting) :
    (∃ name, c.name? = some name ∧ c.mode? = none ∧ f.entity.field? name = none ∧
      f.configure c = .error (.unknownField f.entity.name name)) ∨
    (∃ m, c.mention? f.entity = some m ∧ c.mode? = none ∧ f.configure c = .ok (f.mention m)) ∨
    ∃ mode, c = .setMode mode ∧ f.configure c = .ok (f.setMode mode) := by
  cases named : c.name? with
  | none =>
    cases c with
    | setMode mode => exact .inr (.inr ⟨mode, rfl, rfl⟩)
    | addField | setCriterion => cases named
  | some name =>
    obtain ⟨modeless, looked⟩ := f.configure_of_name named
    cases found : f.entity.field? name with
    | none =>
      refine .inl ⟨name, rfl, modeless, found, ?_⟩
      rw [looked, resolve_of_none found]
      rfl
    | some field =>
      refine .inr (.inl ⟨⟨field, c.criterion?⟩, ?_, modeless, ?_⟩)
      · rw [Setting.mention?, named, Option.bind_some, found]
        rfl
      · rw [looked, resolve_eq_ok.mpr found]
        rfl

theorem of_configure_eq_ok {c : Setting} (h : f.configure c = .ok g) :
    (∃ m, g = f.mention m) ∨ ∃ mode, g = f.setMode mode := by
  obtain ⟨name, -, -, -, refused⟩ | ⟨m, -, -, done⟩ | ⟨mode, -, done⟩ := f.configure_cases c
  · rw [refused] at h
    cases h
  · rw [done] at h
    cases h
    exact .inl ⟨m, rfl⟩
  · rw [done] at h
    cases h
    exact .inr ⟨mode, rfl⟩

theorem configure_entity {c : Setting} (h : f.configure c = .ok g) : g.entity = f.entity := by
  rcases of_configure_eq_ok h with ⟨m, rfl⟩ | ⟨mode, rfl⟩ <;> rfl

/-- A setting is refused just when no field has the name that it mentions. -/
theorem configure_eq_error_iff {c : Setting} {error : FilterError} :
    f.configure c = .error error ↔ ∃ name, c.name? = some name ∧ f.entity.field? name = none ∧
      error = .unknownField f.entity.name name := by
  obtain ⟨name, named, -, unknown, refused⟩ | ⟨m, mentioned, -, done⟩ | ⟨mode, rfl, done⟩ :=
    f.configure_cases c
  · rw [refused, Except.error.injEq]
    constructor
    · rintro rfl
      exact ⟨name, named, unknown, rfl⟩
    · rintro ⟨name', named', -, rfl⟩
      rw [named, Option.some.injEq] at named'
      rw [named']
  · rw [done]
    constructor
    · intro refused
      cases refused
    · rintro ⟨name, named, unknown, -⟩
      rw [Setting.mention?, named, Option.bind_some, unknown] at mentioned
      cases mentioned
  · rw [done]
    constructor
    · intro refused
      cases refused
    · rintro ⟨name, named, -⟩
      cases named

/-- A filter has been told of the settings, and nothing else has happened to it. -/
structure Told (e : Entity) (cs : List Setting) (f : FieldFilter) : Prop where
  entity : f.entity = e
  fresh : f.emitted = false
  mode : f.mode = lastMode cs
  follows : f.Follows (mentions e cs)
  distinct : (f.criteria.map Prod.fst).Nodup

theorem nodup_keys_mention (h : (f.criteria.map Prod.fst).Nodup) (m : Mention) :
    ((f.mention m).criteria.map Prod.fst).Nodup := by
  obtain ⟨field, _ | c⟩ := m
  · exact h
  · exact nodup_keys_putCriterion field.nativeName c h

/-- No setting gives a column a second criterion. -/
theorem nodup_keys_configure {c : Setting} (h : (f.criteria.map Prod.fst).Nodup)
    (set : f.configure c = .ok g) : (g.criteria.map Prod.fst).Nodup := by
  rcases of_configure_eq_ok set with ⟨m, rfl⟩ | ⟨mode, rfl⟩
  · exact nodup_keys_mention h m
  · exact h

theorem mentions_concat (e : Entity) (cs : List Setting) (c : Setting) :
    mentions e (cs ++ [c]) = mentions e cs ++ (c.mention? e).toList := by
  rw [mentions, List.filterMap_append, ← mentions]
  cases said : c.mention? e <;> simp [said]

theorem lastMode_concat (cs : List Setting) (c : Setting) :
    lastMode (cs ++ [c]) = c.mode?.getD (lastMode cs) := by
  rw [lastMode, List.filterMap_append]
  cases said : c.mode? <;> simp [said, lastMode]

/-- One more setting keeps a filter in line with what it was told. -/
theorem Told.step (h : Told e cs f) (c : Setting) :
    Told e (cs ++ [c]) (tried configure f [c]) := by
  have entity := h.entity
  obtain ⟨name, named, modeless, unknown, refused⟩ | ⟨m, mentioned, modeless, done⟩ |
    ⟨mode, rfl, done⟩ := f.configure_cases c
  · have silent : c.mention? e = none := by
      rw [Setting.mention?, named, Option.bind_some, ← entity, unknown]
      rfl
    rw [tried_of_error refused]
    refine ⟨entity, h.fresh, ?_, ?_, h.distinct⟩
    · rw [lastMode_concat, modeless]
      exact h.mode
    · rw [mentions_concat, silent, Option.toList_none, List.append_nil]
      exact h.follows
  · rw [entity] at mentioned
    rw [tried_of_ok done]
    refine ⟨entity, h.fresh, ?_, ?_, nodup_keys_mention h.distinct m⟩
    · rw [lastMode_concat, modeless]
      exact h.mode
    · rw [mentions_concat, mentioned]
      exact h.follows.mention m
  · rw [tried_of_ok done]
    refine ⟨entity, h.fresh, ?_, ?_, h.distinct⟩
    · rw [lastMode_concat]
      rfl
    · have silent : (Setting.setMode mode).mention? e = none := rfl
      rw [mentions_concat, silent, Option.toList_none, List.append_nil]
      exact ⟨h.follows.fields, h.follows.criteria⟩

theorem told_tried (e : Entity) (cs : List Setting) : Told e cs (tried configure (new e) cs) := by
  induction cs using List.reverseRecOn with
  | nil => exact ⟨rfl, rfl, rfl, .new e .all, List.nodup_nil⟩
  | append_singleton cs c ih =>
    rw [tried_append]
    exact ih.step c

theorem Told.lookup (h : Told e cs f) (column : String) :
    f.criteria.lookup column = lastCriterion? e cs column :=
  h.follows.criteria column

theorem Told.demands_eq (h : Told e cs f) : f.demands = demanded e cs := by
  rw [demands, demanded, h.follows.fields, firstMentioned]
  refine List.filterMap_congr fun field _ => ?_
  rw [criterionOn, h.lookup]

/-- Each criterion is demanded of one field. -/
theorem Told.demands_perm (h : Told e cs f) :
    (f.demands.map fun p => (p.1.nativeName, p.2)).Perm f.criteria := by
  rw [List.perm_ext_iff_of_nodup h.follows.demands_nodup (.of_map Prod.fst h.distinct)]
  rintro ⟨column, c⟩
  rw [h.follows.demands_perm.mem_iff, mem_latestBy_iff, ← h.follows.criteria,
    lookup_eq_some_iff_mem h.distinct]

theorem map_fst_demands (f : FieldFilter) : f.demands.map Prod.fst =
    f.fields.fields.filter fun field => (f.criterionOn field).isSome := by
  rw [demands, List.map_filterMap, ← List.filterMap_eq_filter]
  refine List.filterMap_congr fun field _ => ?_
  cases found : f.criterionOn field <;> simp [Option.guard, found]

theorem Told.hasCriteria_iff (h : Told e cs f) : f.hasCriteria = true ↔ f.demands ≠ [] := by
  have count := h.demands_perm.length_eq
  rw [List.length_map] at count
  rw [hasCriteria, Bool.not_eq_true', List.isEmpty_eq_false_iff, ← List.length_pos_iff, ← count,
    List.length_pos_iff]

theorem rendered_ne_empty_iff (f : FieldFilter) (em : Emission) :
    f.rendered em ≠ "" ↔ f.demands ≠ [] := by
  obtain ⟨none, empty⟩ | ⟨some, visible⟩ := f.clause_cases em.dialect
  · have silent : f.rendered em = "" := by
      rw [rendered, empty]
      rfl
    exact iff_of_false (fun text => text silent) fun demanding => demanding none
  · exact iff_of_true (visible.fill_ne_empty _) some

/-- An append writes the text that the filter has in the emission that begins on the statement. -/
theorem fragments_append {s : Statement} {em : Emission} (begun : s.begin = .ok em)
    (accepted : (f.append s).result = .ok ()) :
    (f.append s).statement.fragments = s.fragments ++ [f.rendered em].filter (· ≠ "") := by
  obtain ⟨e, refused⟩ | ⟨-, -, d, hd, appended⟩ := f.append_cases s
  · rw [refused] at accepted
    cases accepted
  rw [Statement.begin_some hd, Except.ok.injEq] at begun
  subst begun
  have on := (Statement.emission_on hd).bindAll (f.clause d).bindings
  have ended : (f.append s).statement =
      ((s.emission d).bindAll (f.clause d).bindings).2.commit (f.rendered (s.emission d)) := by
    rw [appended]
    rfl
  rw [ended]
  by_cases silent : f.rendered (s.emission d) = ""
  · rw [silent, Emission.commit_empty, on.abandon]
    exact (List.append_nil _).symm
  · rw [(on.gains silent).fragments, List.filter_cons_of_pos (by simpa using silent),
      List.filter_nil]

section Congruence

variable (fields : f.fields = g.fields)
  (criteria : ∀ column, f.criteria.lookup column = g.criteria.lookup column)

include fields criteria

theorem validate_congr : f.validate = g.validate := by
  simp only [validate, criterionOn, fields, criteria]

theorem clause_congr (mode : f.mode = g.mode) (d : Dialect) : f.clause d = g.clause d := by
  simp only [clause, predicates, criterionOn, fields, criteria, mode]

/-- What a filter adds to a statement depends on its fields, the criterion of each column and the
mode. -/
theorem append_congr (mode : f.mode = g.mode) (emitted : f.emitted = g.emitted) (s : Statement) :
    (f.append s).statement = (g.append s).statement ∧ (f.append s).result = (g.append s).result := by
  have flag : (Filter.field f).isEmitted = (Filter.field g).isEmitted := emitted
  have check : (Filter.field f).base.validate = (Filter.field g).base.validate :=
    validate_congr fields criteria
  have same : ((Filter.field f).append s).result = ((Filter.field g).append s).result := by
    rw [Filter.result_append, Filter.result_append, flag, check]
    rfl
  have clauses (d : Dialect) : (Filter.field f).clause d = (Filter.field g).clause d :=
    clause_congr fields criteria mode d
  exact ⟨Filter.statement_append_congr clauses same, same⟩

end Congruence

/-- A filter sums up what it was told. -/
structure SumsUp (e : Entity) (cs : List Setting) (f : FieldFilter) : Prop where
  /-- A setting is refused just when it mentions a field that there is not. -/
  refused : ∀ c error, f.configure c = .error error ↔
    ∃ name, c.name? = some name ∧ e.field? name = none ∧ error = .unknownField e.name name
  /-- Then it changes nothing. -/
  unchanged : ∀ c error later, f.configure c = .error error →
    tried configure f (c :: later) = tried configure f later
  /-- The fields are those first mentioned of each column, in the order of these mentions. -/
  fields : f.fields.fields = firstMentioned e cs
  distinct : (f.fields.fields.map Field.nativeName).Nodup
  /-- The criterion of a column is the last that was stated for it. -/
  criteria : ∀ column, f.criteria.lookup column = lastCriterion? e cs column
  /-- Every column with a criterion is the column of a field. -/
  covered : ∀ column, (f.criteria.lookup column).isSome = true →
    column ∈ f.fields.fields.map Field.nativeName
  mode : f.mode = lastMode cs
  /-- There are criteria just when the filter has a text. -/
  text : ∀ em, f.hasCriteria = true ↔ f.rendered em ≠ ""
  /-- An append writes the text, if there is any. -/
  written : ∀ s em, s.begin = .ok em → (f.append s).result = .ok () →
    (f.append s).statement.fragments = s.fragments ++ [f.rendered em].filter (· ≠ "")
  /-- The text joins the predicates of the criteria, in the order of the fields. -/
  predicates : ∀ d, f.clause d = .join (" " ++ (lastMode cs).keyword d ++ " ")
    ((demanded e cs).map fun p => p.2.clause d p.1)
  ordered : (demanded e cs).map Prod.fst =
    f.fields.fields.filter fun field => (f.criteria.lookup field.nativeName).isSome
  /-- Each criterion has one predicate, which is on its column. -/
  one : ((demanded e cs).map fun p => (p.1.nativeName, p.2)).Perm f.criteria

theorem Told.sumsUp (h : Told e cs f) : SumsUp e cs f where
  refused c error := by
    rw [configure_eq_error_iff, h.entity]
  unchanged c error later refused := tried_of_error refused later
  fields := h.follows.fields
  distinct := by
    rw [h.follows.fields]
    exact nodup_map_earliestBy Field.nativeName _
  criteria := h.lookup
  covered column found := by
    obtain ⟨c, found⟩ := Option.isSome_iff_exists.mp found
    rw [lookup_eq_some_iff_mem h.distinct, ← h.demands_perm.mem_iff] at found
    obtain ⟨⟨field, c'⟩, demand, same⟩ := List.mem_map.mp found
    obtain ⟨rfl, rfl⟩ := Prod.mk.inj same
    exact List.mem_map_of_mem (FieldFilter.mem_demands.mp demand).1
  mode := h.mode
  text em := h.hasCriteria_iff.trans (f.rendered_ne_empty_iff em).symm
  written s em := fragments_append
  predicates d := by
    rw [clause, predicates_eq, h.demands_eq, h.mode]
  ordered := by
    rw [← h.demands_eq]
    exact f.map_fst_demands
  one := by
    rw [← h.demands_eq]
    exact h.demands_perm

theorem Told.append_congr {cs' : List Setting} (h : Told e cs f) (h' : Told e cs' g)
    (fields : firstMentioned e cs' = firstMentioned e cs)
    (criteria : ∀ column, lastCriterion? e cs' column = lastCriterion? e cs column)
    (mode : lastMode cs' = lastMode cs) (s : Statement) :
    (g.append s).statement = (f.append s).statement ∧ (g.append s).result = (f.append s).result := by
  apply FieldFilter.append_congr
  · exact congrArg FieldSet.mk (h'.follows.fields.trans (fields.trans h.follows.fields.symm))
  · intro column
    rw [h'.lookup, h.lookup, criteria]
  · rw [h'.mode, h.mode, mode]
  · rw [h'.fresh, h.fresh]

/-- Whatever a new filter is told, it sums up.  Settings that come to the same first fields, last
criteria and last mode make the same of every statement. -/
theorem settings_sum_up (e : Entity) (cs : List Setting) :
    SumsUp e cs (tried configure (new e) cs) ∧
    ∀ cs', firstMentioned e cs' = firstMentioned e cs →
      (∀ column, lastCriterion? e cs' column = lastCriterion? e cs column) →
      lastMode cs' = lastMode cs → ∀ s,
      ((tried configure (new e) cs').append s).statement =
          ((tried configure (new e) cs).append s).statement ∧
        ((tried configure (new e) cs').append s).result =
          ((tried configure (new e) cs).append s).result :=
  ⟨(told_tried e cs).sumsUp, fun cs' fields criteria mode s =>
    (told_tried e cs).append_congr (told_tried e cs') fields criteria mode s⟩

/-- A lower bound that an upper bound on a synonym replaces, and a name that no field has.  Without
all that the filter says the same. -/
theorem settings_sum_up_synonym :
    ∃ (e : Entity) (cs cs' : List Setting) (s : Statement), cs.length = 7 ∧ cs'.length = 4 ∧
      (tried configure (new e) cs).fields.fields.map Field.name = ["Age", "Name"] ∧
      ((tried configure (new e) cs).append s).statement.fragments =
        ["\"age\" <= $1 OR \"name\" IS NULL"] ∧
      ((tried configure (new e) cs').append s).statement =
        ((tried configure (new e) cs).append s).statement := by
  let e : Entity := ⟨"Widget", "widgets",
    [⟨"Age", "age", .integer⟩, ⟨"Years", "age", .decimal⟩, ⟨"Name", "name", .text⟩]⟩
  let lower : Criterion := .compares .greater (.integer 3)
  let upper : Criterion := .compares .lessOrEqual (.integer 65)
  let cs : List Setting := [.setMode .any, .setCriterion "Age" lower, .setCriterion "Name" .isNull,
    .setMode .all, .setCriterion "Colour" .isNull, .setCriterion "Years" upper, .setMode .any]
  let cs' : List Setting := [.addField "Age", .setCriterion "Name" .isNull,
    .setCriterion "Age" upper, .setMode .any]
  have criteria : ∀ column, lastCriterion? e cs' column = lastCriterion? e cs column := by
    intro column
    show [("age", upper), ("name", .isNull)].lookup column =
      ([("age", upper), ("name", .isNull)] ++ [("age", lower)]).lookup column
    rw [List.lookup_append]
    by_cases age : column = "age"
    · rw [age]
      rfl
    · have replaced : [("age", lower)].lookup column = none := by
        rw [List.lookup_cons, beq_false_of_ne age]
        rfl
      rw [replaced, Option.or_none]
  have same := (settings_sum_up e cs).2 cs' rfl criteria rfl (.new .postgres)
  exact ⟨e, cs, cs', .new .postgres, rfl, rfl, rfl, by decide +kernel, same.1⟩

end FieldFilter
end EntityFilter
