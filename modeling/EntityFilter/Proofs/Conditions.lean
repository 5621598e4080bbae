import EntityFilter.Proofs.Configuration
import EntityFilter.Proofs.Finish
import EntityFilter.Proofs.Meaning
import EntityFilter.Proofs.Run
import EntityFilter.Request.Compile

/-!
The conditions of a request, and the predicates of its query.  Filters keep criteria by column, so a
condition stands unless a later condition of the same filter is on the same column.
-/

namespace EntityFilter

/-- What an operator and its operand demand of a field of a kind.  Values are spelled in the operand
for that kind, and the text of a pattern is a string. -/
inductive Operator.Means (kind : Kind) : Operator → Json → Criterion → Prop
  | equals {j : Json} {v : Value} (value : Value.ofJson kind j = .ok v) :
      Means kind .equals j (.equals v)
  | notEquals {j : Json} {v : Value} (value : Value.ofJson kind j = .ok v) :
      Means kind .notEquals j (.notEquals v)
  | compares {j : Json} {v : Value} (op : Comparison) (value : Value.ofJson kind j = .ok v) :
      Means kind (.compares op) j (.compares op v)
  | between {j low high : Json} {v w : Value} (bounds : j.asArray? = some [low, high])
      (lower : Value.ofJson kind low = .ok v) (upper : Value.ofJson kind high = .ok w) :
      Means kind .between j (.between v w)
  | among {j : Json} {items : List Json} {vs : List Value} (members : j.asArray? = some items)
      (values : List.Forall₂ (fun item v => Value.ofJson kind item = .ok v) items vs) :
      Means kind .among j (.among vs)
  | contains {j : Json} {s : String} (text : j.asString? = some s) :
      Means kind .contains j (.like (.contains s))
  | startsWith {j : Json} {s : String} (text : j.asString? = some s) :
      Means kind .startsWith j (.like (.startsWith s))
  | endsWith {j : Json} {s : String} (text : j.asString? = some s) :
      Means kind .endsWith j (.like (.endsWith s))
  | isNull {j : Json} : Means kind .isNull j .isNull
  | isNotNull {j : Json} : Means kind .isNotNull j .isNotNull

namespace Condition

theorem items_eq_ok {j : Json} {items : List Json} :
    Condition.items j = .ok items ↔ j.asArray? = some items := by
  rw [Condition.items]
  cases j.asArray? <;> simp

theorem patternText_eq_ok {j : Json} {s : String} :
    patternText j = .ok s ↔ j.asString? = some s := by
  rw [patternText]
  cases j.asString? <;> simp

theorem means_of_toCriterion {kind : Kind} {j : Json} {op : Operator} {c : Criterion}
    (h : toCriterion kind j op = .ok c) : op.Means kind j c := by
  cases op with
  | equals =>
    obtain ⟨v, read, ⟨⟩⟩ := bind_eq_ok.mp h
    exact .equals (mapError_eq_ok.mp read)
  | notEquals =>
    obtain ⟨v, read, ⟨⟩⟩ := bind_eq_ok.mp h
    exact .notEquals (mapError_eq_ok.mp read)
  | compares op =>
    obtain ⟨v, read, ⟨⟩⟩ := bind_eq_ok.mp h
    exact .compares op (mapError_eq_ok.mp read)
  | between =>
    obtain ⟨items, bounds, h⟩ := bind_eq_ok.mp h
    split at h
    · obtain ⟨low, readLow, h⟩ := bind_eq_ok.mp h
      obtain ⟨high, readHigh, ⟨⟩⟩ := bind_eq_ok.mp h
      exact .between (items_eq_ok.mp bounds) (mapError_eq_ok.mp readLow)
        (mapError_eq_ok.mp readHigh)
    · cases h
  | among =>
    obtain ⟨items, members, h⟩ := bind_eq_ok.mp h
    obtain ⟨values, read, ⟨⟩⟩ := bind_eq_ok.mp h
    exact .among (items_eq_ok.mp members)
      ((mapM_eq_ok.mp read).imp fun _ _ spelled => mapError_eq_ok.mp spelled)
  | contains =>
    obtain ⟨s, text, ⟨⟩⟩ := bind_eq_ok.mp h
    exact .contains (patternText_eq_ok.mp text)
  | startsWith =>
    obtain ⟨s, text, ⟨⟩⟩ := bind_eq_ok.mp h
    exact .startsWith (patternText_eq_ok.mp text)
  | endsWith =>
    obtain ⟨s, text, ⟨⟩⟩ := bind_eq_ok.mp h
    exact .endsWith (patternText_eq_ok.mp text)
  | isNull =>
    cases h
    exact .isNull
  | isNotNull =>
    cases h
    exact .isNotNull

def column? (e : Entity) (c : Condition) : Option String :=
  (e.field? c.field).map Field.nativeName

/-- The conditions that no later one on the same column replaces. -/
def standing (e : Entity) (cs : List Condition) : List Condition := latestBy (column? e) cs

/-- The field that a condition names, and what its operator and its value demand of that field. -/
def demand? (e : Entity) (c : Condition) : Option (Field × Criterion) := do
  let named ← e.field? c.field
  let criterion ← (toCriterion named.kind c.value c.operator).toOption
  return (named, criterion)

def MentionedAs (e : Entity) (c : Condition) (m : Mention) : Prop :=
  ∃ criterion, c.demand? e = some (m.field, criterion) ∧ m.criterion? = some criterion

/-- A condition is what `entry` says of a column. -/
def States (e : Entity) (c : Condition) (entry : String × Criterion) : Prop :=
  ∃ named, c.demand? e = some (named, entry.2) ∧ named.nativeName = entry.1

theorem field?_of_demand? {e : Entity} {c : Condition} {p : Field × Criterion}
    (h : c.demand? e = some p) : e.field? c.field = some p.1 := by
  obtain ⟨named, found, h⟩ := Option.bind_eq_some_iff.mp h
  obtain ⟨criterion, -, ⟨⟩⟩ := Option.bind_eq_some_iff.mp h
  exact found

theorem means_of_demand? {e : Entity} {c : Condition} {p : Field × Criterion}
    (h : c.demand? e = some p) : c.operator.Means p.1.kind c.value p.2 := by
  obtain ⟨named, -, h⟩ := Option.bind_eq_some_iff.mp h
  obtain ⟨criterion, read, ⟨⟩⟩ := Option.bind_eq_some_iff.mp h
  cases converted : toCriterion named.kind c.value c.operator with
  | error fault => simp [converted, Except.toOption] at read
  | ok criterion' =>
    rw [converted] at read
    cases read
    exact means_of_toCriterion converted

theorem mention_of_apply (f : FieldFilter) (c : Condition) (g : FieldFilter)
    (h : c.apply f = .ok g) :
    ∃ m, MentionedAs f.entity c m ∧ g = f.mention m := by
  obtain ⟨named, found, h⟩ := bind_eq_ok.mp h
  obtain ⟨criterion, meant, h⟩ := bind_eq_ok.mp h
  obtain ⟨field, again, rfl⟩ := FieldFilter.mention_of_setCriterion h
  rw [FieldFilter.resolve_eq_ok] at found
  obtain rfl : named = field := Option.some.inj (found.symm.trans again)
  refine ⟨⟨named, some criterion⟩, ⟨criterion, ?_, rfl⟩, rfl⟩
  rw [demand?, found, Option.bind_eq_bind, Option.bind_some, mapError_eq_ok.mp meant]
  rfl

theorem stated_of_mentions {e : Entity} {cs : List Condition} {ms : List Mention}
    (h : List.Forall₂ (MentionedAs e) cs ms) : List.Forall₂ (States e) cs (stated ms) := by
  induction h with
  | nil => exact .nil
  | @cons c m cs ms first _ ih =>
    obtain ⟨criterion, demand, said⟩ := first
    have entry : stated (m :: ms) = (m.field.nativeName, criterion) :: stated ms := by
      simp [stated, said]
    rw [entry]
    exact .cons ⟨m.field, demand, rfl⟩ ih

theorem standing_of_states {e : Entity} {cs : List Condition}
    {entries : List (String × Criterion)} (h : List.Forall₂ (States e) cs entries) :
    List.Forall₂ (States e) (standing e cs) (latestBy Prod.fst entries) := by
  rw [← latestBy_comp (fun _ _ => Option.some.inj)]
  refine forall₂_latestBy ?_ h
  rintro c entry ⟨named, demand, column⟩
  rw [column?, field?_of_demand? demand, Function.comp_apply, ← column]
  rfl

end Condition

namespace FilterSpec

def conditions : FilterSpec → List Condition
  | field _ _ conditions => conditions
  | freeText _ _ _ _ conditions => conditions

def mode : FilterSpec → MatchMode
  | field mode _ _ => mode
  | freeText _ _ _ mode _ => mode

/-- The fields that the base of a filter is told of without a condition on them.  The fields of a
search are no fields of its base. -/
def unconditional : FilterSpec → List String
  | field _ fields _ => fields
  | freeText .. => []

def mentioned (e : Entity) (spec : FilterSpec) : List Field :=
  (spec.unconditional ++ spec.conditions.map Condition.field).filterMap e.field?

end FilterSpec

theorem FreeTextFilter.foldlM_addField_base {fields : List String} {f g : FreeTextFilter}
    (h : fields.foldlM addField f = .ok g) : g.base = f.base := by
  induction fields generalizing f with
  | nil =>
    cases h
    rfl
  | cons name fields ih =>
    obtain ⟨f', first, rest⟩ := foldlM_cons_eq_ok.mp h
    obtain ⟨field, -, first⟩ := bind_eq_ok.mp first
    rw [ih rest]
    split at first
    · cases first
      rfl
    · cases first

def Entity.Mentions (e : Entity) (name : String) (m : Mention) : Prop :=
  e.field? name = some m.field ∧ m.criterion? = none

theorem stated_plain {e : Entity} {names : List String} {ms : List Mention}
    (h : List.Forall₂ e.Mentions names ms) : stated ms = [] := by
  induction h with
  | nil => rfl
  | @cons name m names ms first _ ih => simpa [stated, first.2] using ih

theorem filterMap_of_forall₂ {α β γ : Type} {g : α → Option β} {k : γ → β} {as : List α}
    {cs : List γ} (h : List.Forall₂ (fun a c => g a = some (k c)) as cs) :
    as.filterMap g = cs.map k := by
  induction h with
  | nil => rfl
  | cons first _ ih => rw [List.filterMap_cons_some first, List.map_cons, ih]

namespace FilterSpec

/-- The base of a filter is told of its fields, and then of its conditions. -/
theorem mentions_of_build {e : Entity} {spec : FilterSpec} {f : Filter} (h : spec.build e = .ok f) :
    ∃ plain told, List.Forall₂ e.Mentions spec.unconditional plain ∧
      List.Forall₂ (Condition.MentionedAs e) spec.conditions told ∧
      f.base = (plain ++ told).foldl FieldFilter.mention
        ((FieldFilter.new e).setMode spec.mode) := by
  cases spec with
  | field mode fields conditions =>
    obtain ⟨g, added, h⟩ := bind_eq_ok.mp h
    obtain ⟨g', applied, ⟨⟩⟩ := bind_eq_ok.mp h
    obtain ⟨plain, named, rfl⟩ := FieldFilter.mentions_of_foldlM (R := Entity.Mentions)
      (fun f name g h => by
        obtain ⟨field, found, rfl⟩ := FieldFilter.mention_of_addField h
        exact ⟨⟨field, none⟩, ⟨found, rfl⟩, rfl⟩) added
    obtain ⟨told, demanded, rfl⟩ :=
      FieldFilter.mentions_of_foldlM Condition.mention_of_apply applied
    rw [(FieldFilter.foldl_mention _ _).1] at demanded
    refine ⟨plain, told, named, demanded, ?_⟩
    rw [List.foldl_append]
    rfl
  | freeText terms fields allTextFields mode conditions =>
    obtain ⟨g, added, h⟩ := bind_eq_ok.mp h
    obtain ⟨base, applied, ⟨⟩⟩ := bind_eq_ok.mp h
    have untouched : g.base = FieldFilter.new e := by
      rw [FreeTextFilter.foldlM_addField_base added]
      cases terms <;> rfl
    have searched : (if allTextFields then g.addAllTextFields else g).base = g.base := by
      cases allTextFields <;> rfl
    obtain ⟨told, demanded, rfl⟩ :=
      FieldFilter.mentions_of_foldlM Condition.mention_of_apply applied
    rw [searched, untouched] at demanded
    refine ⟨[], told, .nil, demanded, ?_⟩
    show told.foldl _ ((if allTextFields then g.addAllTextFields else g).base.setMode mode) = _
    rw [searched, untouched]
    rfl

theorem mode_of_build {e : Entity} {spec : FilterSpec} {f : Filter} (h : spec.build e = .ok f) :
    f.base.mode = spec.mode := by
  obtain ⟨plain, told, -, -, built⟩ := mentions_of_build h
  rw [built]
  exact (FieldFilter.foldl_mention _ _).2

/-- The demands of a filter are those of its standing conditions.  A demand is on a mentioned field
of the column, which need not be the field that its condition names. -/
theorem demands_of_build {e : Entity} {spec : FilterSpec} {f : Filter} (h : spec.build e = .ok f) :
    ∃ cs, cs.Perm (Condition.standing e spec.conditions) ∧
      List.Forall₂ (fun p c => p.1 ∈ spec.mentioned e ∧
        Condition.States e c (p.1.nativeName, p.2)) f.base.demands cs := by
  obtain ⟨plain, told, named, demanded, built⟩ := mentions_of_build h
  have follows : f.base.Follows (plain ++ told) := by
    rw [built]
    exact (FieldFilter.Follows.new e spec.mode).foldl _
  have fields : spec.mentioned e = (plain ++ told).map Mention.field := by
    have first := filterMap_of_forall₂ (named.imp fun _ _ mentions => mentions.1)
    have second : (spec.conditions.map Condition.field).filterMap e.field? =
        told.map Mention.field := by
      apply filterMap_of_forall₂
      rw [List.forall₂_map_left_iff]
      exact demanded.imp fun c m ⟨_, demand, _⟩ => Condition.field?_of_demand? demand
    rw [mentioned, List.filterMap_append, first, second, List.map_append]
  have entries : stated (plain ++ told) = stated told := by
    rw [stated, List.filterMap_append, ← stated, ← stated, stated_plain named, List.nil_append]
  -- The last entry of a column comes from the standing condition on it, so the order of the demands
  -- carries over to the conditions.
  have demands := follows.demands_perm
  rw [entries] at demands
  obtain ⟨cs, aligned, perm⟩ := List.perm_comp_forall₂ demands
    (Condition.standing_of_states (Condition.stated_of_mentions demanded)).flip
  rw [List.forall₂_map_left_iff] at aligned
  refine ⟨cs, perm, (List.forall₂_and_left ..).mpr ⟨fun p hp => ?_, aligned⟩⟩
  rw [fields]
  exact (follows.of_mem_demands hp).1

theorem mem_fields_of_mem_mentioned {e : Entity} {spec : FilterSpec} {field : Field}
    (h : field ∈ spec.mentioned e) : field ∈ e.fields := by
  obtain ⟨name, -, found⟩ := List.mem_filterMap.mp h
  exact List.mem_of_find?_eq_some found

end FilterSpec

namespace Catalog

variable {c : Catalog} {text : String}

theorem of_parseRequest_eq_ok {parsed : ParsedRequest} (h : c.parseRequest text = .ok parsed) :
    ∃ request, Request.ofText text = .ok request ∧
      c.entity? request.entity = some parsed.entity ∧
      List.Forall₂ (fun spec f => spec.build parsed.entity = .ok f)
        request.filters parsed.filters := by
  obtain ⟨request, read, h⟩ := bind_eq_ok.mp h
  obtain ⟨e, known, h⟩ := bind_eq_ok.mp h
  obtain ⟨fs, built, ⟨⟩⟩ := bind_eq_ok.mp h
  refine ⟨request, mapError_eq_ok.mp read, ?_, mapM_eq_ok.mp built⟩
  rw [resolve] at known
  cases found : c.entity? request.entity with
  | none => simp [found] at known
  | some e' =>
    rw [found] at known
    cases known
    rfl

theorem of_compileRequest_eq_ok {d : Dialect} {stem : String} {q : Query}
    (h : c.compileRequest text d stem = .ok q) :
    ∃ parsed s, c.parseRequest text = .ok parsed ∧
      Filter.appendAll ((Statement.new d).setStem stem) parsed.filters = .ok s ∧
      s.finishSelect parsed.entity = .ok q := by
  obtain ⟨parsed, accepted, h⟩ := bind_eq_ok.mp h
  obtain ⟨s, appended, finished⟩ := bind_eq_ok.mp h
  exact ⟨parsed, s, accepted, appended, finished⟩

end Catalog

end EntityFilter
