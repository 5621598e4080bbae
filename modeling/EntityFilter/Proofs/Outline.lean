import EntityFilter.Proofs.Finish
import EntityFilter.Proofs.Run

/-!
Outlines: all of a statement but the values of its parameters.  Two lists of filters that differ
only in their data make statements with the same outline, so the data cannot be told from the text.
-/

namespace EntityFilter

/-- A parameter without its value. -/
def Binding.outline (b : Binding) : Binding := { b with value := .null }

def Statement.outline (s : Statement) : Statement :=
  { s with parameters := s.parameters.map Binding.outline }

def Emission.outline (e : Emission) : Emission :=
  { e with statement := e.statement.outline, pending := e.pending.map Binding.outline }

/-- Values to bind, each replaced by null under its kind. -/
def blanks (values : List (Kind × Value)) : List (Kind × Value) :=
  values.map fun v => (v.1, .null)

/-- A clause without its values. -/
def Clause.outline (c : Clause) : Clause := { c with bindings := blanks c.bindings }

namespace Emission

theorem outline_bind (e : Emission) (kind : Kind) (value : Value) :
    e.outline.bind kind .null = ((e.bind kind value).1, (e.bind kind value).2.outline) := by
  simp [bind, outline, Statement.outline, Binding.outline]

theorem outline_bindAll (e : Emission) (values : List (Kind × Value)) :
    e.outline.bindAll (blanks values) = ((e.bindAll values).1, (e.bindAll values).2.outline) := by
  induction values generalizing e with
  | nil => rfl
  | cons v values ih =>
    have others := ih (e.bind v.1 v.2).2
    simp only [blanks, List.map_cons, bindAll, e.outline_bind v.1 v.2] at others ⊢
    rw [others]

theorem outline_commit (e : Emission) (fragment : String) :
    e.outline.commit fragment = (e.commit fragment).outline := by
  rw [commit, commit]
  split
  · rfl
  · simp [outline, Statement.outline]

/-- A clause without its values adds what the clause adds, without the values. -/
theorem outline_commitClause (e : Emission) (c : Clause) :
    e.outline.commitClause c.outline = (e.commitClause c).outline := by
  simp only [commitClause, Clause.outline, e.outline_bindAll c.bindings]
  exact outline_commit _ _

end Emission

namespace Clause

@[simp] theorem outline_text (s : String) : (text s).outline = text s := rfl

@[simp] theorem outline_value (kind : Kind) (v : Value) :
    (value kind v).outline = value kind .null := rfl

@[simp] theorem outline_append (a b : Clause) : (a ++ b).outline = a.outline ++ b.outline := by
  have width : a.outline.bindings.length = a.bindings.length := List.length_map _
  have bound : (a ++ b).outline.bindings = (a.outline ++ b.outline).bindings := List.map_append
  have said : (a ++ b).outline.pieces = (a.outline ++ b.outline).pieces := by
    rw [pieces_append, width]
    rfl
  exact (mk.injEq ..).mpr ⟨said, bound⟩

theorem outline_join (separator : String) (cs : List Clause) :
    (join separator cs).outline = join separator (cs.map outline) := by
  induction cs with
  | nil => rfl
  | cons c cs ih =>
    cases cs with
    | nil => rfl
    | cons b cs =>
      rw [join_cons _ _ (List.cons_ne_nil b cs), outline_append, outline_append, outline_text, ih]
      exact (join_cons _ _ (List.cons_ne_nil _ _)).symm

end Clause

/-- Values that a test of equality says alike: both null or neither, and the same if they are
written into the text. -/
structure Value.Similar (kind : Kind) (v w : Value) : Prop where
  null : v.isNull = w.isNull
  boolean : kind = .boolean → v = w

namespace Criterion

/-- Criteria of one form on a field of a kind, which differ only in their data. -/
inductive Similar (kind : Kind) : Criterion → Criterion → Prop
  | equals {v w : Value} (h : v.Similar kind w) : Similar kind (.equals v) (.equals w)
  | notEquals {v w : Value} (h : v.Similar kind w) : Similar kind (.notEquals v) (.notEquals w)
  | compares (op : Comparison) (v w : Value) : Similar kind (.compares op v) (.compares op w)
  | between (low high low' high' : Value) :
    Similar kind (.between low high) (.between low' high')
  | among {vs ws : List Value} (h : vs.length = ws.length) : Similar kind (.among vs) (.among ws)
  | contains (s t : String) : Similar kind (.like (.contains s)) (.like (.contains t))
  | startsWith (s t : String) : Similar kind (.like (.startsWith s)) (.like (.startsWith t))
  | endsWith (s t : String) : Similar kind (.like (.endsWith s)) (.like (.endsWith t))
  | isNull : Similar kind .isNull .isNull
  | isNotNull : Similar kind .isNotNull .isNotNull

theorem equality_eq_comparison (d : Dialect) (column symbol nullTest : String) {kind : Kind}
    {v : Value} (hn : v.isNull = false) (hk : kind ≠ .boolean) :
    equality d column symbol nullTest kind v = comparison column symbol kind v := by
  cases v with
  | null => cases hn
  | boolean b => rw [equality, if_neg hk]
  | _ => rfl

theorem equality_outline (d : Dialect) (column symbol nullTest : String) {kind : Kind}
    {v w : Value} (h : v.Similar kind w) :
    (equality d column symbol nullTest kind v).outline =
      (equality d column symbol nullTest kind w).outline := by
  by_cases hk : kind = .boolean
  · rw [h.boolean hk]
  cases hv : v.isNull with
  | true =>
    rw [Value.isNull_iff.mp hv, Value.isNull_iff.mp (h.null.symm.trans hv)]
  | false =>
    rw [equality_eq_comparison _ _ _ _ hv hk,
      equality_eq_comparison _ _ _ _ (h.null.symm.trans hv) hk]
    rfl

/-- Similar criteria have predicates that differ in their values only. -/
theorem Similar.clause_outline (d : Dialect) {f : Field} {b c : Criterion}
    (h : Similar f.kind b c) : (b.clause d f).outline = (c.clause d f).outline := by
  cases h with
  | equals h | notEquals h => exact equality_outline _ _ _ _ h
  | @among vs ws h =>
    have members (values : List Value) : (values.map (Clause.value f.kind)).map Clause.outline =
        List.replicate values.length (Clause.value f.kind .null) := by
      rw [List.map_map, ← List.map_const]
      rfl
    simp only [clause, Clause.outline_append, Clause.outline_join, members, h]
  | compares op v w =>
    simp only [clause, comparison, Clause.outline_append, Clause.outline_value]
  | between | contains | startsWith | endsWith =>
    simp only [clause, Clause.outline_append, Clause.outline_value]
  | isNull | isNotNull => rfl

end Criterion

/-- Field filters that differ only in the data of their criteria. -/
structure FieldFilter.Similar (f g : FieldFilter) : Prop where
  fields : f.fields = g.fields
  mode : f.mode = g.mode
  criteria : ∀ field ∈ f.fields.fields,
    Option.Rel (Criterion.Similar field.kind) (f.criterionOn field) (g.criterionOn field)

/-- Searches that differ only in their words and in the data of their bases. -/
structure FreeTextFilter.Similar (f g : FreeTextFilter) : Prop where
  base : f.base.Similar g.base
  searchFields : f.searchFields = g.searchFields

theorem FieldFilter.Similar.clause_outline (d : Dialect) {f g : FieldFilter} (h : f.Similar g) :
    (f.clause d).outline = (g.clause d).outline := by
  have predicates : (f.predicates d).map Clause.outline = (g.predicates d).map Clause.outline := by
    rw [FieldFilter.predicates, FieldFilter.predicates, List.map_filterMap, List.map_filterMap,
      ← h.fields]
    refine List.filterMap_congr fun field member => ?_
    have similar := h.criteria field member
    revert similar
    generalize f.criterionOn field = b
    generalize g.criterionOn field = c
    intro similar
    cases similar with
    | none => rfl
    | some similar => exact congrArg some (similar.clause_outline d)
  rw [clause, clause, Clause.outline_join, Clause.outline_join, predicates, h.mode]

theorem FreeTextFilter.Similar.clause_outline (d : Dialect) {f g : FreeTextFilter}
    (h : f.Similar g) (words words' : String) :
    (f.clause d words).outline = (g.clause d words').outline := by
  have base := h.base.clause_outline d
  have silent : (f.base.clause d).isEmpty = (g.base.clause d).isEmpty :=
    congrArg (fun c => c.pieces.isEmpty) base
  rw [clause, clause, ← silent, ← h.searchFields]
  split
  · rfl
  · simp only [Clause.outline_append, base]
    rfl

namespace Filter

/-- Filters of one kind that differ only in their data. -/
inductive Similar : Filter → Filter → Prop
  | field {f g : FieldFilter} (h : f.Similar g) : Similar (.field f) (.field g)
  | freeText {f g : FreeTextFilter} (h : f.Similar g) : Similar (.freeText f) (.freeText g)

theorem Similar.clause_outline (d : Dialect) {f g : Filter} (h : f.Similar g) :
    (f.clause d).outline = (g.clause d).outline := by
  cases h with
  | field h => exact h.clause_outline d
  | freeText h => exact h.clause_outline d _ _

/-- Appending similar filters keeps equal outlines equal. -/
theorem Similar.append_outline {f g : Filter} (h : f.Similar g) {s t : Statement}
    (same : s.outline = t.outline) (hf : (f.append s).result = .ok ())
    (hg : (g.append t).result = .ok ()) :
    (f.append s).statement.outline = (g.append t).statement.outline := by
  obtain ⟨e, refused⟩ | ⟨-, -, d, hd, appended⟩ := f.append_cases s
  · rw [refused] at hf
    cases hf
  obtain ⟨e, refused⟩ | ⟨-, -, d', hd', appended'⟩ := g.append_cases t
  · rw [refused] at hg
    cases hg
  have dialects : s.outline.dialect = t.outline.dialect := congrArg Statement.dialect same
  obtain rfl : d = d' := Option.some.inj (hd.symm.trans (dialects.trans hd'))
  have begun : s.outline.emission d = t.outline.emission d :=
    congrArg (fun u => Statement.emission u d) same
  rw [appended, appended', ← Emission.outline_commitClause, ← Emission.outline_commitClause,
    h.clause_outline d]
  exact congrArg (fun e => Emission.commitClause e _) begun

theorem appendAll_outline {fs gs : List Filter} (similar : List.Forall₂ Similar fs gs)
    {s t s' t' : Statement} (same : s.outline = t.outline) (hf : appendAll s fs = .ok s')
    (hg : appendAll t gs = .ok t') : s'.outline = t'.outline := by
  induction similar generalizing s t with
  | nil =>
    cases hf
    cases hg
    exact same
  | cons h _ ih =>
    obtain ⟨first, others⟩ := appendAll_cons_eq_ok.mp hf
    obtain ⟨first', others'⟩ := appendAll_cons_eq_ok.mp hg
    exact ih (h.append_outline same first first') others others'

end Filter

/-- Data never reaches the text.  Two lists of filters that differ only in their data, both
appended to a new statement, end in queries with the same text, whose parameters have the same
names and kinds. -/
theorem query_text_hides_data (e : Entity) (d : Dialect) (stem : String) {fs gs : List Filter}
    (similar : List.Forall₂ Filter.Similar fs gs) {s t : Statement}
    (hs : Filter.appendAll ((Statement.new d).setStem stem) fs = .ok s)
    (ht : Filter.appendAll ((Statement.new d).setStem stem) gs = .ok t) :
    ∃ q r : Query, s.finishSelect e = .ok q ∧ t.finishSelect e = .ok r ∧ q.sql = r.sql ∧
      List.Forall₂ (fun a b => a.name = b.name ∧ a.kind = b.kind) q.parameters r.parameters := by
  have same := Filter.appendAll_outline similar rfl hs ht
  obtain ⟨_, added⟩ := Filter.appendAll_added rfl hs
  obtain ⟨_, added'⟩ := Filter.appendAll_added rfl ht
  have fragments : s.fragments = t.fragments := by
    simpa only [Statement.outline] using congrArg Statement.fragments same
  have parameters : s.parameters.map Binding.outline = t.parameters.map Binding.outline :=
    congrArg Statement.parameters same
  refine ⟨_, _, Statement.finishSelect_eq added.dialect e,
    Statement.finishSelect_eq added'.dialect e, by rw [fragments], ?_⟩
  rw [← List.forall₂_eq_eq_eq, List.forall₂_map_left_iff, List.forall₂_map_right_iff] at parameters
  refine parameters.imp fun a b alike => ?_
  exact ⟨(Binding.mk.inj alike).1, (Binding.mk.inj alike).2.1⟩

/-- A name and a search, and in their place texts with quotes and keywords in them. -/
theorem query_text_hides_data_quotes :
    ∃ (f g : Filter) (s t : Statement) (q r : Query), f ≠ g ∧ f.Similar g ∧
      s.finishSelect ⟨"person", "people", []⟩ = .ok q ∧
      t.finishSelect ⟨"person", "people", []⟩ = .ok r ∧ q.sql = r.sql ∧
      q.parameters.map Binding.name = r.parameters.map Binding.name := by
  let name : Field := ⟨"name", "name", .text⟩
  let search (v : String) (words : String) : FreeTextFilter :=
    { base := {
        entity := ⟨"person", "people", []⟩, fields := ⟨[name]⟩,
        criteria := [("name", .equals (.text v))] }
      searchFields := ⟨[name]⟩, terms := some words }
  have bases : (search "Ann" "x").base.Similar (search "' OR 1=1" "\"; --").base := by
    refine ⟨rfl, rfl, fun field member => ?_⟩
    obtain rfl : field = name := List.mem_singleton.mp member
    exact .some (.equals ⟨rfl, nofun⟩)
  have similar : (Filter.freeText (search "Ann" "x")).Similar
      (.freeText (search "' OR 1=1" "\"; --")) := .freeText ⟨bases, rfl⟩
  obtain ⟨q, r, hq, hr, same, parameters⟩ :=
    query_text_hides_data ⟨"person", "people", []⟩ .clickhouse "p" (.cons similar .nil) rfl rfl
  refine ⟨_, _, _, _, q, r, by decide, similar, hq, hr, same, ?_⟩
  rw [← List.forall₂_eq_eq_eq, List.forall₂_map_left_iff, List.forall₂_map_right_iff]
  exact parameters.imp fun _ _ alike => alike.1

end EntityFilter
