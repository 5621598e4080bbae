import EntityFilter.Proofs.Outcome
import EntityFilter.Proofs.Sql.Atoms
import EntityFilter.Proofs.Template

/-!
What filters demand, as truth in a lattice, and that the text of a filter is read as just that.
-/

namespace EntityFilter

open Sql

variable {ω : Type}

namespace Criterion

/-- What equality or its opposite with a value says; null is tested for. -/
def equalityAtom (f : Field) (r : Relation) (nullTest : Atom ω) (p : Nat → ω) : Value → Atom ω
  | .null => nullTest
  | .boolean b =>
    if f.kind = .boolean then .compareTruth f.nativeName r b else .compare f.nativeName r (p 0)
  | _ => .compare f.nativeName r (p 0)

/-- What a criterion says of a field, when `p k` stands for its value of number `k`. -/
def atom (f : Field) (p : Nat → ω) : Criterion → Atom ω
  | equals v => equalityAtom f .equal (.isNull f.nativeName) p v
  | notEquals v => equalityAtom f .unequal (.isNotNull f.nativeName) p v
  | compares op _ => .compare f.nativeName (.order op) (p 0)
  | between _ _ => .between f.nativeName (p 0) (p 1)
  | among values => .among f.nativeName ((List.range values.length).map p)
  | like _ => .like f.nativeName (p 0) (some "\\")
  | isNull => .isNull f.nativeName
  | isNotNull => .isNotNull f.nativeName

end Criterion

/-- What demands on fields say, when their values are numbered on from one demand to the next. -/
def atoms (p : Nat → ω) : List (Field × Criterion) → List (Atom ω)
  | [] => []
  | (field, c) :: rest =>
    c.atom field p :: atoms (fun k => p (k + (c.bound field.kind).length)) rest

section Truth

variable {α : Type} [Lattice α] [BoundedOrder α] (v : Atom ω → α) (p : Nat → ω)

/-- Whether the demands of a field filter hold.  Without demands it holds in either mode. -/
def FieldFilter.holds (f : FieldFilter) : α :=
  match f.demands, f.mode with
  | [], _ => ⊤
  | demands, .all => allOf ((atoms p demands).map v)
  | demands, .any => anyOf ((atoms p demands).map v)

/-- Whether any column of a search matches the words, which are the value behind those of the
base. -/
def FreeTextFilter.matches (f : FreeTextFilter) : α :=
  anyOf (f.searchFields.fields.map fun field =>
    v (.freeText field.nativeName (p f.base.bound.length)))

def Filter.holds : Filter → α
  | .field f => f.holds v p
  | .freeText f => f.base.holds v p ⊓ f.matches v p

end Truth

/-- Whether all filters hold, when their values are numbered on from one filter to the next. -/
def Filter.allHold {α : Type} [Lattice α] [BoundedOrder α] (v : Atom ω → α) (p : Nat → ω) :
    List Filter → α
  | [] => ⊤
  | f :: rest => f.holds v p ⊓ allHold v (fun k => p (k + f.bound.length)) rest

/-- The first `n` of the texts that stand for values are markers. -/
def Marks (d : Dialect) (p : Nat → String) (n : Nat) : Prop :=
  ∀ k < n, Lexes d (p k) [.marker (p k)]

theorem Marks.left {d : Dialect} {p : Nat → String} {m n : Nat} (h : Marks d p (m + n)) :
    Marks d p m :=
  fun k hk => h k (by omega)

theorem Marks.right {d : Dialect} {p : Nat → String} {m n : Nat} (h : Marks d p (m + n)) :
    Marks d (fun k => p (k + m)) n :=
  fun k hk => h (k + m) (by omega)

namespace Criterion

variable {d : Dialect} {p : Nat → String}

theorem comparison_operand (f : Field) {symbol : String} {r : Relation}
    (lexed : Lexes d symbol [.symbol symbol]) (hr : Relation.ofSymbol? symbol = some r)
    (v : Value) (h : Marks d p 1) :
    Operand d ((comparison (d.identifier f.nativeName) symbol f.kind v).render p)
      (.atom (.compare f.nativeName r (p 0))) := by
  rw [comparison, Clause.render_append, Clause.render_text, Clause.render_value]
  exact operand_compare f.nativeName lexed hr (h 0 Nat.one_pos)

theorem equality_operand (f : Field) {symbol nullTest : String} {r : Relation} {a : Atom String}
    (lexed : Lexes d symbol [.symbol symbol]) (hr : Relation.ofSymbol? symbol = some r)
    (test : Operand d (d.identifier f.nativeName ++ " " ++ nullTest) (.atom a)) {v : Value}
    (h : Marks d p (compared f.kind v).length) :
    Operand d ((equality d (d.identifier f.nativeName) symbol nullTest f.kind v).render p)
      (.atom (equalityAtom f r a p v)) := by
  cases v with
  | null =>
    rw [equality, Clause.render_text]
    exact test
  | boolean b =>
    by_cases hf : f.kind = .boolean
    · simp only [equality, equalityAtom, hf, if_true, Clause.render_text]
      exact operand_compareTruth f.nativeName lexed hr b
    · simp only [compared, hf, if_false] at h
      simp only [equality, equalityAtom, hf, if_false]
      exact comparison_operand f lexed hr _ h
  | _ => exact comparison_operand f lexed hr _ h

theorem lexes_symbol {symbol : String} {r : Relation} (h : Relation.ofSymbol? symbol = some r) :
    Lexes d symbol [.symbol symbol] := by
  unfold Relation.ofSymbol? at h
  split at h
  on_goal 7 => cases h
  all_goals exact lexes_of_bare [] .symbol _ (by cases d <;> rfl)

/-- The predicate of a criterion is read as what the criterion says. -/
theorem clause_operand (f : Field) {c : Criterion} (h : Marks d p (c.bound f.kind).length)
    (accepted : c.check f = .ok ()) :
    Operand d ((c.clause d f).render p) (.atom (c.atom f p)) := by
  cases c with
  | equals v =>
    refine equality_operand f (lexes_symbol rfl) rfl ?_ h
    rw [String.append_assoc]
    exact operand_isNull f.nativeName
  | notEquals v =>
    refine equality_operand f (lexes_symbol rfl) rfl ?_ h
    rw [String.append_assoc]
    exact operand_isNotNull f.nativeName
  | compares op v =>
    have known : Relation.ofSymbol? op.symbol = some (.order op) := by
      cases op <;> rfl
    exact comparison_operand f (lexes_symbol known) known v h
  | between low high =>
    have read := operand_between f.nativeName (h 0 Nat.zero_lt_two) (h 1 Nat.one_lt_two)
    have keyword : " " ++ d.andKeyword ++ " " = " AND " := rfl
    simpa [clause, atom, keyword] using read
  | among values =>
    cases values with
    | nil => cases accepted
    | cons v values =>
      have members : (List.range (v :: values).length).map p =
          p 0 :: (List.range values.length).map (fun k => p (k + 1)) := by
        simp [List.range_succ_eq_map, Function.comp_def]
      have marked : ∀ m ∈ (List.range (v :: values).length).map p, Lexes d m [.marker m] := by
        intro m hm
        obtain ⟨k, hk, rfl⟩ := List.mem_map.mp hm
        exact h k (List.mem_range.mp hk)
      have read := operand_among f.nativeName (members ▸ marked)
      rw [← members] at read
      simpa [clause, atom, Clause.render_join, Clause.renders_values, -List.map_cons] using read
  | like pattern =>
    have read := operand_like f.nativeName (h 0 Nat.one_pos)
    simpa [clause, atom] using read
  | isNull => simpa [clause, atom] using operand_isNull f.nativeName
  | isNotNull => simpa [clause, atom] using operand_isNotNull f.nativeName

end Criterion

section Texts

variable {d : Dialect} {p : Nat → String}

/-- The predicates of demands are read as what the demands say. -/
theorem demands_operands {ds : List (Field × Criterion)}
    (h : Marks d p (ds.flatMap fun (field, c) => (c.bound field.kind).map (field.kind, ·)).length)
    (accepted : ∀ q ∈ ds, q.2.check q.1 = .ok ()) :
    List.Forall₂ (Operand d) (Clause.renders p (ds.map fun (field, c) => c.clause d field))
      ((atoms p ds).map .atom) := by
  induction ds generalizing p with
  | nil => exact .nil
  | cons q ds ih =>
    obtain ⟨field, c⟩ := q
    rw [List.flatMap_cons, List.length_append, List.length_map] at h
    have width : (c.clause d field).bindings.length = (c.bound field.kind).length := by
      rw [(c.clause_binds d field).bindings, List.length_map]
    -- The values of the other demands are numbered behind those of this one.
    have rest := ih h.right fun q hq => accepted q (List.mem_cons_of_mem _ hq)
    rw [← width] at rest
    rw [atoms, ← width]
    exact .cons (c.clause_operand field h.left (accepted _ List.mem_cons_self)) rest

namespace FieldFilter

/-- The condition of a filter is read as what the filter demands. -/
theorem clause_condition {f : FieldFilter} (valid : f.validate = .ok ())
    (demanding : f.demands ≠ []) (h : Marks d p f.bound.length) :
    ∃ φ, Disjunction d ((f.clause d).render p) φ ∧
      ∀ (α : Type) [Lattice α] [BoundedOrder α] (v : Atom String → α),
        φ.eval v = f.holds v p := by
  have operands := demands_operands h (check_of_validate valid)
  rw [clause, Clause.render_join, predicates_eq]
  cases hf : f.demands with
  | nil => exact absurd hf demanding
  | cons q ds =>
    rw [hf] at operands
    cases operands with
    | cons first others =>
      cases hm : f.mode with
      | all =>
        refine ⟨_, (first.conjunction.all others).disjunction, fun α _ _ v => ?_⟩
        rw [Formula.eval_all]
        simp [holds, hf, hm, atoms, Formula.eval]
      | any =>
        refine ⟨_, first.disjunction.any others, fun α _ _ v => ?_⟩
        rw [Formula.eval_any]
        simp [holds, hf, hm, atoms, Formula.eval]

end FieldFilter

namespace FreeTextFilter

/-- The search is read as a choice of columns. -/
theorem search_condition {fields : List Field} {marker : String} (searched : fields ≠ [])
    (h : Lexes d marker [.marker marker]) :
    ∃ φ, Disjunction d (d.search fields marker) φ ∧
      ∀ (α : Type) [Lattice α] [BoundedOrder α] (v : Atom String → α),
        φ.eval v = anyOf (fields.map fun field => v (.freeText field.nativeName marker)) := by
  have operand (field : Field) :
      Operand d (d.freeText (d.identifier field.nativeName) marker)
        (.atom (.freeText field.nativeName marker)) :=
    operand_freeText field.nativeName h
  obtain ⟨field, fields, rfl⟩ := List.exists_cons_of_ne_nil searched
  have others : List.Forall₂ (Operand d)
      (fields.map fun field => d.freeText (d.identifier field.nativeName) marker)
      (fields.map fun field => .atom (.freeText field.nativeName marker)) := by
    simp [List.forall₂_map_left_iff, List.forall₂_map_right_iff, List.forall₂_same, operand]
  refine ⟨_, (operand field).disjunction.any others, fun α _ _ v => ?_⟩
  rw [Formula.eval_any]
  simp [Formula.eval, Function.comp_def]

/-- The condition of a filter is read as the demands of its base, if there are any, and the
search. -/
theorem clause_condition {f : FreeTextFilter} (terms : String)
    (searched : f.searchFields.isEmpty = false) (valid : f.base.validate = .ok ())
    (h : Marks d p (f.base.bound.length + 1)) :
    ∃ φ, Disjunction d ((f.clause d terms).render p) φ ∧
      ∀ (α : Type) [Lattice α] [BoundedOrder α] (v : Atom String → α),
        φ.eval v = f.base.holds v p ⊓ f.matches v p := by
  have columns : f.searchFields.fields ≠ [] := by
    simpa [FieldSet.isEmpty] using searched
  obtain ⟨σ, search, found⟩ := search_condition columns (h _ (Nat.lt_succ_self _))
  obtain ⟨none, -, hc⟩ | ⟨demanding, hc⟩ := f.clause_render d terms p
  · refine ⟨σ, hc ▸ search, fun α _ _ v => ?_⟩
    rw [found, FieldFilter.holds, none, top_inf_eq, FreeTextFilter.matches]
  · obtain ⟨β, base, held⟩ := FieldFilter.clause_condition valid demanding h.left
    have both := base.parenthesized.conjunction.and search.parenthesized
    refine ⟨.and β σ, ?_, fun α _ _ v => ?_⟩
    · have joined (text : String) :
          ") " ++ (d.andKeyword ++ (" (" ++ text)) = ")" ++ (" AND " ++ ("(" ++ text)) := by
        simp only [← String.append_assoc]
        rfl
      rw [hc]
      simpa only [String.append_assoc, joined] using both.disjunction
    · rw [Formula.eval, held, found, FreeTextFilter.matches]

end FreeTextFilter

/-- The condition of a filter that demands something is read as what the filter demands. -/
theorem Filter.clause_condition {f : Filter} (complete : f.Complete) (demanding : f.Demanding)
    (h : Marks d p f.bound.length) :
    ∃ φ, Disjunction d ((f.clause d).render p) φ ∧
      ∀ (α : Type) [Lattice α] [BoundedOrder α] (v : Atom String → α),
        φ.eval v = f.holds v p := by
  cases f with
  | field f => exact FieldFilter.clause_condition complete demanding h
  | freeText f =>
    rw [bound, List.length_append, List.length_singleton] at h
    exact FreeTextFilter.clause_condition _ complete.2.1 complete.2.2 h

theorem Filter.holds_of_not_demanding {α : Type} [Lattice α] [BoundedOrder α] {f : Filter}
    (h : ¬ f.Demanding) (v : Atom ω → α) (p : Nat → ω) : f.holds v p = ⊤ := by
  cases f with
  | field f =>
    have none : f.demands = [] := by
      simpa [Demanding] using h
    rw [holds, FieldFilter.holds, none]
  | freeText f => exact absurd trivial h

end Texts

end EntityFilter
