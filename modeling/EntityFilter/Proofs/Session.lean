import EntityFilter.Proofs.History

/-!
Sessions, in which filters are configured and appended to statements.  Whatever fails or is
abandoned in a session leaves no trace: the session goes on as if it had not been tried.
-/

namespace EntityFilter

inductive FieldFilter.Setting where
  | addField (name : String)
  | setCriterion (name : String) (c : Criterion)
  | setMode (mode : MatchMode)

def FieldFilter.configure (f : FieldFilter) : FieldFilter.Setting → Except FilterError FieldFilter
  | .addField name => f.addField name
  | .setCriterion name c => f.setCriterion name c
  | .setMode mode => .ok (f.setMode mode)

/-- A change to a free-text filter, or to its base. -/
inductive FreeTextFilter.Setting where
  | base (s : FieldFilter.Setting)
  | addField (name : String)
  | addAllTextFields
  | setTerms (terms : String)

def FreeTextFilter.configure (f : FreeTextFilter) :
    FreeTextFilter.Setting → Except FilterError FreeTextFilter
  | .base s => (f.base.configure s).map fun base => { f with base }
  | .addField name => f.addField name
  | .addAllTextFields => .ok f.addAllTextFields
  | .setTerms terms => .ok (f.setTerms terms)

/-- Changes a filter.  A field filter is a base, and has nothing to search. -/
def Filter.configure : Filter → FreeTextFilter.Setting → Except FilterError Filter
  | field f, .base s => (f.configure s).map field
  | field f, _ => .ok (field f)
  | freeText f, s => (f.configure s).map freeText

/-- Statements and filters, which actions refer to by their places. -/
structure Session where
  statements : List Statement
  filters : List Filter

namespace Session

inductive Action where
  | operate (i : Nat) (o : Statement.Operation)
  | configure (j : Nat) (s : FreeTextFilter.Setting)
  | append (j i : Nat)
  | appendBase (j i : Nat)
  | clone (j : Nat)

inductive Reply where
  | absent
  | statement (r : Statement.Reply)
  | filter (r : Except FilterError Unit)

def perform (x : Session) : Action → Reply × Session
  | .operate i o =>
    match x.statements[i]? with
    | some s =>
      let (r, s) := s.perform o
      (.statement r, { x with statements := x.statements.set i s })
    | none => (.absent, x)
  | .configure j setting =>
    match x.filters[j]? with
    | some f =>
      match f.configure setting with
      | .ok f => (.filter (.ok ()), { x with filters := x.filters.set j f })
      | .error e => (.filter (.error e), x)
    | none => (.absent, x)
  | .append j i =>
    match x.filters[j]?, x.statements[i]? with
    | some f, some s =>
      let a := f.append s
      (.filter a.result, ⟨x.statements.set i a.statement, x.filters.set j a.filter⟩)
    | _, _ => (.absent, x)
  | .appendBase j i =>
    match x.filters[j]?, x.statements[i]? with
    | some f, some s =>
      let a := f.base.append s
      (.filter a.result, ⟨x.statements.set i a.statement, x.filters.set j (f.setBase a.filter)⟩)
    | _, _ => (.absent, x)
  | .clone j =>
    match x.filters[j]? with
    | some f => (.filter (.ok ()), { x with filters := x.filters ++ [f] })
    | none => (.absent, x)

/-- An attempt of which nothing comes: an append that fails, or an emission without a fragment. -/
def IsVain (x : Session) : Action → Prop
  | .append j i => ∃ e, (x.perform (.append j i)).1 = .filter (.error e)
  | .appendBase j i => ∃ e, (x.perform (.appendBase j i)).1 = .filter (.error e)
  | .operate _ (.emit _ fragment?) => fragment?.getD "" = ""
  | _ => False

/-- The replies to actions and the sessions after them.  A mark tells the actions of a run from
attempts that were put in. -/
def trace (x : Session) : List (Bool × Action) → List (Bool × Reply × Session)
  | [] => []
  | (own, a) :: rest => (own, x.perform a) :: (x.perform a).2.trace rest

/-- The attempts put into a run are in vain when their turn comes. -/
def Pads (x : Session) : List (Bool × Action) → Prop
  | [] => True
  | (own, a) :: rest => (own = false → x.IsVain a) ∧ (x.perform a).2.Pads rest

end Session

theorem FieldFilter.append_error {f : FieldFilter} {s : Statement} {e : FilterError}
    (h : (f.append s).result = .error e) :
    (f.append s).statement = s ∧ (f.append s).filter = f := by
  obtain ⟨e', refused⟩ | ⟨-, -, d, -, accepted⟩ := f.append_cases s
  · rw [refused]
    exact ⟨rfl, rfl⟩
  · rw [accepted] at h
    cases h

theorem FreeTextFilter.field_of_addField {f g : FreeTextFilter} {name : String}
    (h : f.addField name = .ok g) : ∃ field ∈ f.base.entity.textFields,
      g = { f with searchFields := f.searchFields.add field } := by
  obtain ⟨field, resolved, added⟩ := bind_eq_ok.mp h
  rw [FieldFilter.resolve] at resolved
  split at resolved
  · rename_i found
    cases resolved
    split at added
    · rename_i textual
      cases added
      exact ⟨field, List.mem_filter.mpr ⟨List.mem_of_find?_eq_some found, textual⟩, rfl⟩
    · cases added
  · cases resolved

/-- A setting of a search changes its base, adds textual fields, or sets the words. -/
theorem FreeTextFilter.of_configure_eq_ok {f g : FreeTextFilter} {c : FreeTextFilter.Setting}
    (h : f.configure c = .ok g) :
    (∃ b base, f.base.configure b = .ok base ∧ g = { f with base }) ∨
    (∃ fs ⊆ f.base.entity.textFields,
      g = { f with searchFields := f.searchFields.addAll fs }) ∨
    ∃ terms, g = f.setTerms terms := by
  cases c with
  | base b =>
    obtain ⟨base, changed, rfl⟩ := map_eq_ok.mp h
    exact .inl ⟨b, base, changed, rfl⟩
  | addField name =>
    obtain ⟨field, textual, rfl⟩ := field_of_addField h
    have one : [field] ⊆ f.base.entity.textFields :=
      List.cons_subset.mpr ⟨textual, List.nil_subset _⟩
    exact .inr (.inl ⟨[field], one, rfl⟩)
  | addAllTextFields =>
    cases h
    exact .inr (.inl ⟨f.base.entity.textFields, List.Subset.refl _, rfl⟩)
  | setTerms terms =>
    cases h
    exact .inr (.inr ⟨terms, rfl⟩)

theorem Filter.setBase_base (f : Filter) : f.setBase f.base = f := by
  cases f <;> rfl

/-- An append that fails changes neither the filter nor the statement. -/
theorem Filter.append_error {f : Filter} {s : Statement} {e : FilterError}
    (h : (f.append s).result = .error e) :
    (f.append s).statement = s ∧ (f.append s).filter = f := by
  rcases f.append_cases s with ⟨_, appended⟩ | ⟨-, -, d, -, appended⟩
  · rw [appended]
    exact ⟨rfl, rfl⟩
  · rw [appended] at h
    cases h

/-- An emission that is dropped, or ends without text, changes nothing. -/
theorem Emission.no_fragment {s : Statement} {e : Emission} (h : s.begin = .ok e)
    (values : List (Kind × Value)) (fragment? : Option String) (hf : fragment?.getD "" = "") :
    (e.bindAll values).2.finish fragment? = s := by
  have restored := ((On.begin h).bindAll values).abandon
  cases fragment? with
  | none => exact restored
  | some fragment =>
    obtain rfl : fragment = "" := hf
    rw [finish, commit_empty, restored]

theorem Statement.perform_emit_vain (s : Statement) (values : List (Kind × Value))
    {fragment? : Option String} (hf : fragment?.getD "" = "") :
    (s.perform (.emit values fragment?)).2 = s := by
  simp only [perform]
  split
  · rename_i e h
    exact Emission.no_fragment h values fragment? hf
  · rfl

theorem set_of_getElem? {α : Type} {l : List α} {i : Nat} {a : α} (h : l[i]? = some a) :
    l.set i a = l := by
  obtain ⟨hi, rfl⟩ := List.getElem?_eq_some_iff.mp h
  exact List.set_getElem_self hi

namespace Session

/-- What is tried in vain leaves the session as it was. -/
theorem perform_vain {x : Session} {a : Action} (h : x.IsVain a) : (x.perform a).2 = x := by
  cases a with
  | configure | clone => exact absurd h id
  | append j i =>
    obtain ⟨e, h⟩ := h
    cases hj : x.filters[j]? with
    | none => simp only [perform, hj]
    | some f =>
      cases hi : x.statements[i]? with
      | none => simp only [perform, hj, hi]
      | some s =>
        simp only [perform, hj, hi, Reply.filter.injEq] at h ⊢
        obtain ⟨hs, hf⟩ := Filter.append_error h
        rw [hs, hf, set_of_getElem? hi, set_of_getElem? hj]
  | appendBase j i =>
    obtain ⟨e, h⟩ := h
    cases hj : x.filters[j]? with
    | none => simp only [perform, hj]
    | some f =>
      cases hi : x.statements[i]? with
      | none => simp only [perform, hj, hi]
      | some s =>
        simp only [perform, hj, hi, Reply.filter.injEq] at h ⊢
        obtain ⟨hs, hf⟩ := FieldFilter.append_error h
        rw [hs, hf, Filter.setBase_base, set_of_getElem? hi, set_of_getElem? hj]
  | operate i o =>
    cases o with
    | emit values fragment? =>
      cases hi : x.statements[i]? with
      | none => simp only [perform, hi]
      | some s => simp only [perform, hi, s.perform_emit_vain values h, set_of_getElem? hi]
    | _ => exact absurd h id

/-- Attempts in vain change neither a reply nor a session of the run into which they are put. -/
theorem trace_filter {x : Session} {turns : List (Bool × Action)} (h : x.Pads turns) :
    (x.trace turns).filter Prod.fst = x.trace (turns.filter Prod.fst) := by
  induction turns generalizing x with
  | nil => rfl
  | cons turn turns ih =>
    obtain ⟨own, a⟩ := turn
    obtain ⟨vain, rest⟩ := h
    cases own with
    | true =>
      simp only [trace, List.filter_cons_of_pos, ih rest]
    | false =>
      have kept := perform_vain (vain rfl)
      rw [kept] at rest
      simp only [trace, kept]
      exact ih rest

end Session

/-- Emission is all or nothing.  A failed append leaves statement and filter as they were, an
emission without a fragment leaves its statement as it was, and putting such attempts into a run
changes nothing in what the run answers and becomes. -/
theorem failure_leaves_no_trace :
    (∀ (f : Filter) (s : Statement) (e : FilterError), (f.append s).result = .error e →
      (f.append s).statement = s ∧ (f.append s).filter = f) ∧
    (∀ (s : Statement) (e : Emission) (values : List (Kind × Value)), s.begin = .ok e →
      (e.bindAll values).2.abandon = s ∧ (e.bindAll values).2.commit "" = s) ∧
    (∀ (x : Session) (turns : List (Bool × Session.Action)), x.Pads turns →
      (x.trace turns).filter Prod.fst = x.trace (turns.filter Prod.fst)) :=
  ⟨fun _ _ _ h => Filter.append_error h,
    fun _ _ values h =>
      ⟨Emission.no_fragment h values none rfl, Emission.no_fragment h values (some "") rfl⟩,
    fun _ _ h => Session.trace_filter h⟩

/-- Two binds, and between them a dropped emission and a search for nothing. -/
theorem failure_leaves_no_trace_between_binds :
    ∃ (x : Session) (bind drop fail : Session.Action),
      x.Pads [(true, bind), (false, drop), (false, fail), (true, bind)] ∧
      (x.trace [(true, bind), (false, drop), (false, fail), (true, bind)]).filter Prod.fst =
        x.trace [(true, bind), (true, bind)] := by
  have padded : Session.Pads ⟨[.new .sqlite], [.freeText (.new ⟨"person", "people", []⟩)]⟩
      [(true, .operate 0 (.bind .integer (.integer 1))),
        (false, .operate 0 (.emit [(.integer, .integer 2)] none)), (false, .append 0 0),
        (true, .operate 0 (.bind .integer (.integer 1)))] :=
    ⟨nofun, fun _ => rfl, fun _ => ⟨.missingSearchTerms, rfl⟩, nofun, trivial⟩
  exact ⟨_, _, _, _, padded, failure_leaves_no_trace.2.2 _ _ padded⟩

end EntityFilter
