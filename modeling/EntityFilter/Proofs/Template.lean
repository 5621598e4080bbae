import EntityFilter.Proofs.History

/-!
Clauses as templates.  The clause of a filter depends on the filter and the dialect alone; its holes
stand in the order of its values, and appending the filter binds these values and fills each hole
with the marker of its own value.
-/

namespace EntityFilter

def Piece.hole? : Piece → Option Nat
  | text _ => none
  | hole n => some n

/-- The text of a piece, given the text of every hole. -/
def Piece.render (g : Nat → String) : Piece → String
  | text s => s
  | hole n => g n

namespace Clause

/-- The holes of a clause in the order of its text. -/
def holes (c : Clause) : List Nat := c.pieces.filterMap Piece.hole?

/-- The text of a clause, given the text of every hole. -/
def render (g : Nat → String) (c : Clause) : String :=
  (c.pieces.map (Piece.render g)).foldr (· ++ ·) ""

@[simp] theorem pieces_append (a b : Clause) :
    (a ++ b).pieces = a.pieces ++ b.pieces.map (Piece.shift a.bindings.length) := rfl

@[simp] theorem bindings_append (a b : Clause) : (a ++ b).bindings = a.bindings ++ b.bindings := rfl

@[simp] theorem bindings_text (s : String) : (text s).bindings = [] := rfl

@[simp] theorem bindings_value (kind : Kind) (v : Value) :
    (value kind v).bindings = [(kind, v)] := rfl

@[simp] theorem holes_text (s : String) : (text s).holes = [] := rfl

@[simp] theorem holes_value (kind : Kind) (v : Value) : (value kind v).holes = [0] := rfl

@[simp] theorem holes_append (a b : Clause) :
    (a ++ b).holes = a.holes ++ b.holes.map (a.bindings.length + ·) := by
  have shifted (ps : List Piece) (k : Nat) :
      (ps.map (Piece.shift k)).filterMap Piece.hole? = (ps.filterMap Piece.hole?).map (k + ·) := by
    induction ps with
    | nil => rfl
    | cons p ps ih =>
      cases p with
      | text s => exact ih
      | hole n =>
        simp only [List.map_cons, Piece.shift, List.filterMap_cons, Piece.hole?, ih]
        rw [Nat.add_comm]
  simp only [holes, pieces_append, List.filterMap_append, shifted]

@[simp] theorem render_text (g : Nat → String) (s : String) : (text s).render g = s := by
  simp [render, text, Piece.render]

@[simp] theorem render_value (g : Nat → String) (kind : Kind) (v : Value) :
    (value kind v).render g = g 0 := by
  simp [render, value, Piece.render]

/-- The holes of the second clause are numbered behind the values of the first. -/
@[simp] theorem render_append (g : Nat → String) (a b : Clause) :
    (a ++ b).render g = a.render g ++ b.render fun n => g (n + a.bindings.length) := by
  have concat (xs ys : List String) :
      (xs ++ ys).foldr (· ++ ·) "" = xs.foldr (· ++ ·) "" ++ ys.foldr (· ++ ·) "" := by
    induction xs with
    | nil => simp
    | cons x xs ih => simp [ih, String.append_assoc]
  have shifted (ps : List Piece) :
      (ps.map (Piece.shift a.bindings.length)).map (Piece.render g) =
        ps.map (Piece.render fun n => g (n + a.bindings.length)) := by
    rw [List.map_map]
    refine List.map_congr_left fun p _ => ?_
    cases p <;> rfl
  simp only [render, pieces_append, List.map_append, concat, shifted]

theorem fill_eq_render (c : Clause) (markers : List String) :
    c.fill markers = c.render fun n => markers.getD n "" := by
  rw [fill, render]
  congr 1

theorem render_congr {c : Clause} {f g : Nat → String} (h : ∀ k ∈ c.holes, f k = g k) :
    c.render f = c.render g := by
  rw [render, render]
  refine congrArg _ (List.map_congr_left fun p hp => ?_)
  cases p with
  | text s => rfl
  | hole n => exact h n (List.mem_filterMap.mpr ⟨_, hp, rfl⟩)

/-- The holes of a clause stand in the order of its values, one for each. -/
def Sequential (c : Clause) : Prop := c.holes = List.range c.bindings.length

theorem Sequential.text (s : String) : (Clause.text s).Sequential := rfl

theorem Sequential.value (kind : Kind) (v : Value) : (Clause.value kind v).Sequential := rfl

theorem Sequential.append {a b : Clause} (ha : a.Sequential) (hb : b.Sequential) :
    (a ++ b).Sequential := by
  rw [Sequential, holes_append, ha, hb, bindings_append, List.length_append, List.range_add]

theorem join_cons (separator : String) (c : Clause) {cs : List Clause} (h : cs ≠ []) :
    join separator (c :: cs) = c ++ text separator ++ join separator cs := by
  cases cs with
  | nil => exact absurd rfl h
  | cons b cs => rfl

theorem bindings_join (separator : String) (cs : List Clause) :
    (join separator cs).bindings = cs.flatMap Clause.bindings := by
  induction cs with
  | nil => rfl
  | cons c cs ih =>
    cases cs with
    | nil => simp [join]
    | cons b cs => simp [join_cons, ih]

theorem Sequential.join (separator : String) {cs : List Clause} (h : ∀ c ∈ cs, c.Sequential) :
    (Clause.join separator cs).Sequential := by
  induction cs with
  | nil => rfl
  | cons c cs ih =>
    have first := h c List.mem_cons_self
    have others := ih fun b hb => h b (List.mem_cons_of_mem _ hb)
    cases cs with
    | nil => exact first
    | cons b cs => exact (first.append (.text separator)).append others

/-- The texts of clauses that stand one behind the other. -/
def renders (g : Nat → String) : List Clause → List String
  | [] => []
  | c :: cs => c.render g :: renders (fun n => g (n + c.bindings.length)) cs

theorem render_join (g : Nat → String) (separator : String) (cs : List Clause) :
    (join separator cs).render g = separator.intercalate (renders g cs) := by
  induction cs generalizing g with
  | nil => rfl
  | cons c cs ih =>
    cases cs with
    | nil => simp [join, renders]
    | cons b cs =>
      rw [join_cons _ _ (by simp), render_append, render_append, ih, render_text]
      simp [renders]

theorem renders_values (g : Nat → String) (kind : Kind) (values : List Value) :
    renders g (values.map (value kind)) = (List.range values.length).map g := by
  induction values generalizing g with
  | nil => rfl
  | cons v values ih =>
    simp [renders, ih, List.range_succ_eq_map, Function.comp_def]

/-- A clause that shows some text, whatever fills its holes. -/
def Visible (c : Clause) : Prop := ∀ g, c.render g ≠ ""

theorem Visible.text {s : String} (h : s ≠ "") : (Clause.text s).Visible := by
  intro g
  rwa [render_text]

theorem Visible.fill_ne_empty {c : Clause} (h : c.Visible) (markers : List String) :
    c.fill markers ≠ "" := by
  rw [fill_eq_render]
  exact h _

theorem Visible.pieces_ne_nil {c : Clause} (h : c.Visible) : c.pieces ≠ [] := by
  intro none
  exact h (fun _ => "") (by rw [render, none]; rfl)

theorem Visible.append_left {a : Clause} (h : a.Visible) (b : Clause) : (a ++ b).Visible := by
  intro g empty
  rw [render_append, String.append_eq_empty_iff] at empty
  exact h g empty.1

theorem Visible.join (separator : String) {c : Clause} {cs : List Clause} (h : c.Visible) :
    (Clause.join separator (c :: cs)).Visible := by
  cases cs with
  | nil => exact h
  | cons b cs => exact (h.append_left _).append_left _

end Clause

/-- What a statement has gained when an emission has ended with a fragment. -/
structure Statement.Gains (s : Statement) (fragment : String) (added : List Binding)
    (t : Statement) : Prop where
  dialect : t.dialect = s.dialect
  stem : t.registry.stem = s.registry.stem
  fragments : t.fragments = s.fragments ++ [fragment]
  parameters : t.parameters = s.parameters ++ added

theorem Emission.On.gains {s : Statement} {e : Emission} (h : e.On s) {fragment : String}
    (text : fragment ≠ "") : s.Gains fragment e.pending (e.commit fragment) := by
  obtain ⟨counter, committed⟩ := h.commit text
  exact committed ▸ ⟨rfl, rfl, rfl, rfl⟩

/-- What a statement is after an emission that ends with a clause. -/
theorem Statement.commitClause_emission {s : Statement} {d : Dialect} (hd : s.dialect = some d)
    (c : Clause) :
    ∃ added : List Binding, added.map Binding.content = c.bindings ∧
      (∀ b ∈ added, ∃ k, b.name = s.registry.nameAt k) ∧
      (c.fill (d.markers s.parameters.length added) = "" → (s.emission d).commitClause c = s) ∧
      (c.fill (d.markers s.parameters.length added) ≠ "" →
        s.Gains (c.fill (d.markers s.parameters.length added)) added
          ((s.emission d).commitClause c)) := by
  have begun := begin_some hd
  have on := (Emission.On.begin begun).bindAll c.bindings
  obtain ⟨contents, markers⟩ := Emission.bindAll_of_begin begun c.bindings
  have ended : (s.emission d).commitClause c =
      ((s.emission d).bindAll c.bindings).2.commit
        (c.fill ((s.emission d).bindAll c.bindings).1) := rfl
  rw [ended, markers]
  refine ⟨((s.emission d).bindAll c.bindings).2.pending, contents, fun b hb => ?_,
    fun empty => ?_, fun text => ?_⟩
  · exact on.generated b.name (on.names ▸ List.mem_map_of_mem hb)
  · exact (congrArg _ empty).trans on.abandon
  · exact on.gains text

/-- A predicate that binds `vs` in the order of its markers. -/
structure Clause.Binds (c : Clause) (kind : Kind) (vs : List Value) : Prop where
  bindings : c.bindings = vs.map (kind, ·)
  sequential : c.Sequential
  visible : c.Visible

theorem Clause.Binds.text {s : String} (h : s ≠ "") (kind : Kind) : (text s).Binds kind [] :=
  ⟨rfl, .text s, .text h⟩

/-- Behind a text a value can stand for itself. -/
theorem Clause.Binds.append {a b : Clause} {kind : Kind} {v w : List Value}
    (ha : a.Binds kind v) (bindings : b.bindings = w.map (kind, ·)) (hb : b.Sequential) :
    (a ++ b).Binds kind (v ++ w) :=
  ⟨by rw [bindings_append, ha.bindings, bindings, List.map_append],
    ha.sequential.append hb, ha.visible.append_left b⟩

namespace Criterion

/-- The value that a test of equality binds.  Null, and a boolean on a boolean field, are part of
the text. -/
def compared (kind : Kind) : Value → List Value
  | .null => []
  | .boolean b => if kind = .boolean then [] else [.boolean b]
  | v => [v]

/-- The values that a criterion binds on a field of a kind: the lower bound of a range before the
upper one, and the values of a list in their order. -/
def bound (kind : Kind) : Criterion → List Value
  | equals v | notEquals v => compared kind v
  | compares _ v => [v]
  | between low high => [low, high]
  | among values => values
  | like p => [.text p.pattern]
  | isNull | isNotNull => []

theorem equality_cases (d : Dialect) (column symbol nullTest : String) (kind : Kind) (v : Value) :
    (v = .null ∧ equality d column symbol nullTest kind v = .text (column ++ " " ++ nullTest)) ∨
    (∃ b, v = .boolean b ∧ kind = .boolean ∧ equality d column symbol nullTest kind v =
      .text (column ++ " " ++ symbol ++ " " ++ d.boolLiteral b)) ∨
    compared kind v = [v] ∧
      equality d column symbol nullTest kind v = comparison column symbol kind v := by
  cases v with
  | null => exact .inl ⟨rfl, rfl⟩
  | boolean b =>
    by_cases h : kind = .boolean
    · exact .inr (.inl ⟨b, rfl, h, by simp [equality, h]⟩)
    · exact .inr (.inr (by simp [compared, equality, h]))
  | _ => exact .inr (.inr ⟨rfl, rfl⟩)

theorem comparison_binds (column symbol : String) (kind : Kind) (v : Value) :
    (comparison column symbol kind v).Binds kind [v] :=
  (Clause.Binds.text (by simp) kind).append rfl (.value kind v)

theorem equality_binds (d : Dialect) (column symbol nullTest : String) (kind : Kind) (v : Value) :
    (equality d column symbol nullTest kind v).Binds kind (compared kind v) := by
  obtain ⟨rfl, h⟩ | ⟨b, rfl, rfl, h⟩ | ⟨bound, h⟩ :=
    equality_cases d column symbol nullTest kind v
  · rw [h]
    exact .text (by simp) kind
  · rw [h]
    exact .text (by simp) .boolean
  · rw [h, bound]
    exact comparison_binds column symbol kind v

/-- The predicate of a criterion binds the values of the criterion. -/
theorem clause_binds (d : Dialect) (f : Field) (c : Criterion) :
    (c.clause d f).Binds f.kind (c.bound f.kind) := by
  cases c with
  | equals v | notEquals v => exact equality_binds ..
  | compares op v => exact comparison_binds ..
  | between low high =>
    have first := (Clause.Binds.text (s := d.identifier f.nativeName ++ " BETWEEN ") (by simp)
      f.kind).append (w := [low]) rfl (.value f.kind low)
    have keyword := first.append (w := []) rfl (.text (" " ++ d.andKeyword ++ " "))
    exact keyword.append (w := [high]) rfl (.value f.kind high)
  | among values =>
    have items : (Clause.join ", " (values.map (.value f.kind))).bindings =
        values.map (f.kind, ·) := by
      rw [Clause.bindings_join, List.flatMap_map, List.map_eq_flatMap]
      rfl
    have ordered : (Clause.join ", " (values.map (.value f.kind))).Sequential := by
      refine .join ", " fun b hb => ?_
      obtain ⟨v, -, rfl⟩ := List.mem_map.mp hb
      exact .value f.kind v
    have opened := (Clause.Binds.text (s := d.identifier f.nativeName ++ " IN (") (by simp)
      f.kind).append items ordered
    have closed := opened.append (w := []) rfl (.text ")")
    rwa [List.nil_append, List.append_nil] at closed
  | like p =>
    have pattern := (Clause.Binds.text (s := d.identifier f.nativeName ++ " LIKE ") (by simp)
      f.kind).append (w := [.text p.pattern]) rfl (.value f.kind (.text p.pattern))
    exact pattern.append (w := []) rfl (.text d.likeEscape)
  | isNull | isNotNull => exact .text (by simp) f.kind

end Criterion

namespace FieldFilter

/-- The fields with a criterion, in the order of the fields. -/
def demands (f : FieldFilter) : List (Field × Criterion) :=
  f.fields.fields.filterMap fun field => (f.criterionOn field).map (field, ·)

def bound (f : FieldFilter) : List (Kind × Value) :=
  f.demands.flatMap fun (field, c) => (c.bound field.kind).map (field.kind, ·)

/-- The check of a filter is the check of each of its demands in turn. -/
theorem validate_eq (f : FieldFilter) : f.validate = f.demands.forM fun p => p.2.check p.1 := by
  rw [validate, demands]
  induction f.fields.fields with
  | nil => rfl
  | cons field rest ih =>
    rw [List.forM, ih]
    cases found : f.criterionOn field with
    | none =>
      rw [List.filterMap_cons_none (by rw [found]; rfl)]
      rfl
    | some c =>
      rw [List.filterMap_cons_some (by rw [found]; rfl)]
      rfl

theorem check_of_validate {f : FieldFilter} (h : f.validate = .ok ()) :
    ∀ p ∈ f.demands, p.2.check p.1 = .ok () := by
  rwa [validate_eq, forM_eq_ok] at h

theorem predicates_eq (f : FieldFilter) (d : Dialect) :
    f.predicates d = f.demands.map fun (field, c) => c.clause d field := by
  simp only [predicates, demands, List.map_filterMap, Option.map_map]
  rfl

theorem bindings_predicates (f : FieldFilter) (d : Dialect) :
    (f.predicates d).flatMap Clause.bindings = f.bound := by
  rw [predicates_eq, List.flatMap_map, bound]
  exact List.flatMap_congr fun p _ => (p.2.clause_binds d p.1).bindings

theorem clause_bindings (f : FieldFilter) (d : Dialect) : (f.clause d).bindings = f.bound := by
  rw [clause, Clause.bindings_join, bindings_predicates]

theorem clause_sequential (f : FieldFilter) (d : Dialect) : (f.clause d).Sequential := by
  refine .join _ fun c hc => ?_
  rw [predicates_eq] at hc
  obtain ⟨p, -, rfl⟩ := List.mem_map.mp hc
  exact (p.2.clause_binds d p.1).sequential

/-- A filter without criteria says nothing, and one with criteria says something. -/
theorem clause_cases (f : FieldFilter) (d : Dialect) :
    f.demands = [] ∧ f.clause d = {} ∨ f.demands ≠ [] ∧ (f.clause d).Visible := by
  rw [clause, predicates_eq]
  cases f.demands with
  | nil => exact .inl ⟨rfl, rfl⟩
  | cons p rest => exact .inr ⟨by simp, .join _ (p.2.clause_binds d p.1).visible⟩

/-- The text of a filter joins the texts of its predicates. -/
theorem clause_render (f : FieldFilter) (d : Dialect) (g : Nat → String) :
    (f.clause d).render g = (" " ++ f.mode.keyword d ++ " ").intercalate
      (Clause.renders g (f.predicates d)) := by
  rw [clause, Clause.render_join]

end FieldFilter

/-- The text of a search in columns for the words that a marker stands for. -/
def Dialect.search (d : Dialect) (columns : List Field) (marker : String) : String :=
  " OR ".intercalate (columns.map fun c => d.freeText (d.identifier c.nativeName) marker)

namespace FreeTextFilter

theorem searchClause_render (d : Dialect) (g : Nat → String) (fields : List Field)
    (terms : String) : (searchClause d fields terms).render g = d.search fields (g 0) := by
  rw [Dialect.search]
  induction fields with
  | nil => rfl
  | cons field fields ih =>
    cases fields with
    | nil => simp [searchClause, Clause.render, predicate, Piece.render, Dialect.freeText,
        String.append_assoc]
    | cons other fields =>
      simp only [searchClause, Clause.render, List.map_cons, List.intercalate_cons_cons,
        predicate, String.intercalate_cons_cons] at ih ⊢
      rw [← ih]
      simp [Piece.render, Dialect.freeText, Dialect.orKeyword, String.append_assoc]

theorem searchClause_holes (d : Dialect) (fields : List Field) (terms : String) :
    (searchClause d fields terms).holes = List.replicate fields.length 0 := by
  rw [searchClause, Clause.holes]
  induction fields with
  | nil => rfl
  | cons field fields ih =>
    cases fields with
    | nil => rfl
    | cons other fields =>
      simp only [List.map_cons, List.intercalate_cons_cons, List.filterMap_append] at ih ⊢
      rw [ih]
      rfl

theorem searchClause_visible (d : Dialect) {fields : List Field} (h : fields ≠ [])
    (terms : String) : (searchClause d fields terms).Visible := by
  obtain ⟨field, fields, rfl⟩ := List.exists_cons_of_ne_nil h
  have named : d.freeTextParts.1 ≠ "" := by
    cases d <;> decide
  intro g empty
  cases fields <;>
    simp [searchClause, Clause.render, predicate, List.intercalate_cons_cons, Piece.render,
      named] at empty

/-- The condition is the search alone, or the base and the search between parentheses. -/
theorem clause_cases (f : FreeTextFilter) (d : Dialect) (terms : String) :
    f.base.demands = [] ∧ f.base.clause d = {} ∧
      f.clause d terms = searchClause d f.searchFields.fields terms ∨
    f.base.demands ≠ [] ∧ f.clause d terms =
      .text "(" ++ f.base.clause d ++ .text (") " ++ d.andKeyword ++ " (") ++
        searchClause d f.searchFields.fields terms ++ .text ")" := by
  obtain ⟨none, empty⟩ | ⟨some, visible⟩ := f.base.clause_cases d
  · refine .inl ⟨none, empty, ?_⟩
    rw [clause, empty]
    rfl
  · refine .inr ⟨some, ?_⟩
    rw [clause, if_neg (by simpa [Clause.isEmpty] using visible.pieces_ne_nil)]

/-- The text of a search with its base, whose values come before the words. -/
theorem clause_render (f : FreeTextFilter) (d : Dialect) (terms : String) (g : Nat → String) :
    f.base.demands = [] ∧ f.base.clause d = {} ∧ (f.clause d terms).render g =
      d.search f.searchFields.fields (g f.base.bound.length) ∨
    f.base.demands ≠ [] ∧ (f.clause d terms).render g =
      "(" ++ (f.base.clause d).render g ++ ") " ++ d.andKeyword ++ " (" ++
        d.search f.searchFields.fields (g f.base.bound.length) ++ ")" := by
  obtain ⟨none, empty, whole⟩ | ⟨some, whole⟩ := f.clause_cases d terms
  · have silent : f.base.bound = [] := by
      rw [FieldFilter.bound, none]
      rfl
    refine .inl ⟨none, empty, ?_⟩
    rw [whole, searchClause_render, silent]
    rfl
  · refine .inr ⟨some, ?_⟩
    simp only [whole, Clause.render_append, Clause.render_text, Clause.bindings_append,
      Clause.bindings_text, FieldFilter.clause_bindings, searchClause_render,
      List.nil_append, List.append_nil, List.length_nil, Nat.add_zero, Nat.zero_add]
    simp [String.append_assoc]

theorem clause_bindings (f : FreeTextFilter) (d : Dialect) (terms : String) :
    (f.clause d terms).bindings = f.base.bound ++ [(.text, .text terms)] := by
  obtain ⟨none, -, h⟩ | ⟨-, h⟩ := f.clause_cases d terms
  · rw [h, FieldFilter.bound, none]
    rfl
  · simp only [h, Clause.bindings_append, Clause.bindings_text, FieldFilter.clause_bindings,
      List.nil_append, List.append_nil]
    rfl

/-- Only the words are used more than once, and they stand last. -/
theorem clause_holes (f : FreeTextFilter) (d : Dialect) (terms : String) :
    (f.clause d terms).holes = List.range f.base.bound.length ++
      List.replicate f.searchFields.size f.base.bound.length := by
  obtain ⟨none, -, h⟩ | ⟨-, h⟩ := f.clause_cases d terms
  · rw [h, searchClause_holes, FieldFilter.bound, none]
    rfl
  · have base := f.base.clause_sequential d
    rw [Clause.Sequential, FieldFilter.clause_bindings] at base
    simp [h, base, searchClause_holes, FieldFilter.clause_bindings, FieldSet.size]

theorem clause_visible (f : FreeTextFilter) (d : Dialect) (terms : String)
    (searched : f.searchFields.isEmpty = false) : (f.clause d terms).Visible := by
  obtain ⟨-, -, h⟩ | ⟨-, h⟩ := f.clause_cases d terms
  · rw [h]
    exact searchClause_visible d (by simpa [FieldSet.isEmpty] using searched) terms
  · rw [h]
    exact (((Clause.Visible.text (by decide)).append_left _).append_left _).append_left _
      |>.append_left _

end FreeTextFilter

namespace Filter

/-- The values that a filter binds; the words of a search are the last one. -/
def bound : Filter → List (Kind × Value)
  | field f => f.bound
  | freeText f => f.base.bound ++ [(.text, .text (f.terms.getD ""))]

/-- The values of a filter in the order in which its condition uses them: each once, but the words
of a search once for each column. -/
def uses : Filter → List Nat
  | field f => List.range f.bound.length
  | freeText f =>
    List.range f.base.bound.length ++ List.replicate f.searchFields.size f.base.bound.length

/-- What has been configured: a filter, whether it has been appended or not. -/
def configuration : Filter → Filter
  | field f => field { f with emitted := false }
  | freeText f => freeText { f with base := { f.base with emitted := false }, emitted := false }

theorem clause_configuration (f : Filter) (d : Dialect) :
    f.configuration.clause d = f.clause d := by
  cases f <;> rfl

theorem clause_bindings (f : Filter) (d : Dialect) : (f.clause d).bindings = f.bound := by
  cases f with
  | field f => exact f.clause_bindings d
  | freeText f => exact f.clause_bindings d _

/-- The text of the search for the words that a marker stands for, if a filter is a search. -/
def search? (d : Dialect) (marker : String) : Filter → Option String
  | field _ => none
  | freeText f => some (d.search f.searchFields.fields marker)

/-- The text of a filter from the texts of its predicates and that of its search, if it is one. -/
def compose (d : Dialect) (mode : MatchMode) (predicates : List String) : Option String → String
  | none => (" " ++ mode.keyword d ++ " ").intercalate predicates
  | some search =>
    if predicates = [] then search
    else "(" ++ (" " ++ mode.keyword d ++ " ").intercalate predicates ++ ") " ++ d.andKeyword ++
      " (" ++ search ++ ")"

/-- Whatever its values are called, the text of a filter joins those of the predicates, and has that
of its search behind them. -/
def Joins (f : Filter) (d : Dialect) (mode : MatchMode) (predicates : List Clause) : Prop :=
  ∀ g, (f.clause d).render g =
    compose d mode (Clause.renders g predicates) (f.search? d (g f.base.bound.length))

theorem joins_predicates (f : Filter) (d : Dialect) :
    f.Joins d f.base.mode (f.base.predicates d) := by
  intro g
  cases f with
  | field f => exact f.clause_render d g
  | freeText f =>
    rw [clause, search?, compose, base, ← f.base.clause_render, f.base.predicates_eq]
    obtain ⟨none, -, whole⟩ | ⟨some, whole⟩ := f.clause_render d (f.terms.getD "") g
    · rw [whole, none]
      rfl
    · obtain ⟨p, rest, demands⟩ := List.exists_cons_of_ne_nil some
      rw [whole, demands, List.map_cons, Clause.renders, if_neg (List.cons_ne_nil _ _)]

theorem clause_holes (f : Filter) (d : Dialect) : (f.clause d).holes = f.uses := by
  cases f with
  | field f =>
    have ordered := f.clause_sequential d
    rwa [Clause.Sequential, FieldFilter.clause_bindings] at ordered
  | freeText f => exact f.clause_holes d _

/-- Whether a filter demands anything; a search does. -/
def Demanding : Filter → Prop
  | field f => f.demands ≠ []
  | freeText _ => True

/-- A filter says something just when it demands something. -/
theorem clause_cases {f : Filter} (h : f.Complete) (d : Dialect) :
    ¬ f.Demanding ∧ f.clause d = {} ∨ f.Demanding ∧ (f.clause d).Visible := by
  cases f with
  | field f =>
    exact (f.clause_cases d).imp (And.imp_left fun none demanding => demanding none) id
  | freeText f => exact .inr ⟨trivial, f.clause_visible d _ h.2.1⟩

/-- Every value of a filter that can be appended is used. -/
theorem mem_uses {f : Filter} (h : f.Complete) {k : Nat} (hk : k < f.bound.length) :
    k ∈ f.uses := by
  cases f with
  | field f => exact List.mem_range.mpr hk
  | freeText f =>
    have searched : f.searchFields.size ≠ 0 := by
      simpa [FieldSet.size, FieldSet.isEmpty] using h.2.1
    rw [bound, List.length_append, List.length_singleton] at hk
    rw [uses, List.mem_append, List.mem_range, List.mem_replicate]
    omega

theorem lt_of_mem_uses {f : Filter} {k : Nat} (hk : k ∈ f.uses) : k < f.bound.length := by
  cases f with
  | field f => exact List.mem_range.mp hk
  | freeText f =>
    rw [uses, List.mem_append, List.mem_range, List.mem_replicate] at hk
    rw [bound, List.length_append, List.length_singleton]
    omega

/-- What appending a filter binds and says; a filter without demands changes nothing. -/
theorem append_gains {f : Filter} {s : Statement} {d : Dialect} (hd : s.dialect = some d)
    (accepted : (f.append s).result = .ok ()) :
    f.Complete ∧ ∃ added : List Binding, added.map Binding.content = f.bound ∧
      (∀ b ∈ added, ∃ k, b.name = s.registry.nameAt k) ∧
      (¬ f.Demanding ∧ f.clause d = {} ∧ added = [] ∧ (f.append s).statement = s ∨
        f.Demanding ∧ (f.clause d).Visible ∧
          s.Gains ((f.clause d).fill (d.markers s.parameters.length added)) added
            (f.append s).statement) := by
  obtain ⟨e, refused⟩ | ⟨-, complete, d', hd', h⟩ := f.append_cases s
  · rw [refused] at accepted
    cases accepted
  obtain rfl : d = d' := by
    rw [hd, Option.some.injEq] at hd'
    exact hd'
  obtain ⟨added, contents, named, vain, told⟩ := Statement.commitClause_emission hd (f.clause d)
  rw [f.clause_bindings] at contents
  refine ⟨complete, added, contents, named, ?_⟩
  rw [h]
  refine (clause_cases complete d).imp (fun ⟨silent, empty⟩ => ?_)
    fun ⟨demanding, visible⟩ => ⟨demanding, visible, told ?_⟩
  · have none : f.bound = [] := by
      rw [← f.clause_bindings d, empty]
    rw [none, List.map_eq_nil_iff] at contents
    exact ⟨silent, empty, contents, vain (by rw [empty]; rfl)⟩
  · rw [Clause.fill_eq_render]
    exact visible _

/-- Every filter has a template in each dialect, which says which values are bound and where they
are used.  Wherever a filter so configured is appended, its values become the next parameters, and
every hole is filled with the marker of its own parameter.  An empty template adds nothing. -/
theorem append_fills_template (f : Filter) (d : Dialect) :
    ∃ template : Clause, template.bindings = f.bound ∧ template.holes = f.uses ∧
      ∀ (g : Filter) (s : Statement), g.configuration = f.configuration → s.dialect = some d →
        (g.append s).result = .ok () →
        (∀ k < f.bound.length, k ∈ f.uses) ∧
        ∃ added : List Binding, added.map Binding.content = f.bound ∧
          (g.append s).statement.parameters = s.parameters ++ added ∧
          (template.pieces = [] → (g.append s).statement = s) ∧
          (template.pieces ≠ [] → (g.append s).statement.fragments =
            s.fragments ++ [template.fill (d.markers s.parameters.length added)]) := by
  refine ⟨f.clause d, f.clause_bindings d, f.clause_holes d, fun g s same hd accepted => ?_⟩
  have template : g.clause d = f.clause d := by
    rw [← g.clause_configuration, same, f.clause_configuration]
  have bound : g.bound = f.bound := by
    rw [← g.clause_bindings d, template, f.clause_bindings]
  have uses : g.uses = f.uses := by
    rw [← g.clause_holes d, template, f.clause_holes]
  obtain ⟨complete, added, contents, -, gained⟩ := append_gains hd accepted
  refine ⟨fun k hk => uses ▸ mem_uses complete (bound ▸ hk), added, bound ▸ contents, ?_⟩
  rw [← template]
  obtain ⟨-, empty, rfl, unchanged⟩ | ⟨-, visible, gains⟩ := gained
  · rw [unchanged, empty, List.append_nil]
    exact ⟨rfl, fun _ => rfl, fun text => (text rfl).elim⟩
  · exact ⟨gains.parameters, fun empty => (visible.pieces_ne_nil empty).elim,
      fun _ => gains.fragments⟩

/-- A search in two columns with one more demand, behind a parameter of other origin. -/
theorem append_fills_template_behind_parameter :
    ∃ (f : Filter) (s : Statement) (template : Clause) (added : List Binding),
      s.parameters.length = 1 ∧ template.holes = [0, 1, 1] ∧
      added.map Binding.content = [(.integer, .integer 7), (.text, .text "x")] ∧
      (f.append s).statement.fragments =
        [template.fill (Dialect.sqlite.markers 1 added)] := by
  let f : Filter := .freeText {
    base := {
      entity := ⟨"person", "people", []⟩
      fields := ⟨[⟨"age", "age", .integer⟩]⟩
      criteria := [("age", .compares .greater (.integer 7))] }
    searchFields := ⟨[⟨"first", "first", .text⟩, ⟨"last", "last", .text⟩]⟩
    terms := some "x" }
  let s : Statement := ((Statement.new .sqlite).bind .integer (.integer 1)).2
  have accepted : (f.append s).result = .ok () := rfl
  obtain ⟨template, -, holes, fills⟩ := append_fills_template f .sqlite
  obtain ⟨-, added, contents, -, -, fragment⟩ := fills f s rfl rfl accepted
  refine ⟨f, s, template, added, rfl, holes, contents, fragment fun empty => ?_⟩
  rw [Clause.holes, empty] at holes
  cases holes

end Filter

end EntityFilter
