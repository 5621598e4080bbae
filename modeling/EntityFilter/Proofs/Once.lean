import EntityFilter.Proofs.Session

/-!
Filters emit once.  In a session a filter and, if it is a search, its base are appended
successfully at most once each, whatever is configured, cloned or changed in between.
-/

namespace EntityFilter

namespace Filter

/-- What can be appended of a filter: the whole of it, or its base. -/
inductive Part where
  | whole
  | base
  deriving DecidableEq

def wasAppended : Part → Filter → Bool
  | .whole, f => f.isEmitted
  | .base, f => f.base.emitted

/-- A filter whose part counts as appended, or does not.  A field filter is its own base. -/
def setAppended (b : Bool) : Part → Filter → Filter
  | _, field f => field { f with emitted := b }
  | .whole, freeText f => freeText { f with emitted := b }
  | .base, freeText f => freeText { f with base := { f.base with emitted := b } }

def appendPart (f : Filter) (s : Statement) : Part → Appended Filter
  | .whole => f.append s
  | .base => ⟨f.setBase (f.base.append s).filter, (f.base.append s).statement,
      (f.base.append s).result⟩

variable {f g : Filter} {s : Statement} {p : Part}

theorem wasAppended_setAppended (f : Filter) (b : Bool) (p : Part) :
    (f.setAppended b p).wasAppended p = b := by
  cases f <;> cases p <;> rfl

theorem wasAppended_setAppended_other (f : FreeTextFilter) (b : Bool) {p q : Part} (h : p ≠ q) :
    ((freeText f).setAppended b p).wasAppended q = (freeText f).wasAppended q := by
  cases p with
  | whole =>
    cases q with
    | whole => exact absurd rfl h
    | base => rfl
  | base =>
    cases q with
    | whole => rfl
    | base => exact absurd rfl h

/-- Appending a part fails and changes nothing, or it does no more to the filter than to note it. -/
theorem appendPart_cases (f : Filter) (s : Statement) (p : Part) :
    (∃ e, f.appendPart s p = ⟨f, s, .error e⟩) ∨
      ∃ t, f.appendPart s p = ⟨f.setAppended true p, t, .ok ()⟩ := by
  cases p with
  | whole =>
    obtain ⟨e, refused⟩ | ⟨-, -, d, -, accepted⟩ := f.append_cases s
    · exact .inl ⟨e, refused⟩
    · refine .inr ⟨(s.emission d).commitClause (f.clause d), ?_⟩
      rw [appendPart, accepted]
      cases f <;> rfl
  | base =>
    rw [appendPart]
    obtain ⟨e, refused⟩ | ⟨-, -, d, -, accepted⟩ := f.base.append_cases s
    · refine .inl ⟨e, ?_⟩
      rw [refused]
      simp only [setBase_base]
    · refine .inr ⟨(s.emission d).commitClause (f.base.clause d), ?_⟩
      rw [accepted]
      cases f <;> rfl

theorem appendPart_refused (h : f.wasAppended p = true) (s : Statement) :
    f.appendPart s p = ⟨f, s, .error .alreadyEmitted⟩ := by
  cases p with
  | base =>
    have emitted : f.base.emitted = true := h
    rw [appendPart, f.base.append_eq, if_pos emitted]
    simp only [setBase_base]
  | whole =>
    cases f with
    | field f =>
      have emitted : f.emitted = true := h
      rw [appendPart, append, f.append_eq, if_pos emitted]
    | freeText f =>
      have emitted : f.emitted = true := h
      rw [appendPart, append, f.append_eq, if_pos emitted]

theorem appendPart_setAppended (f : FreeTextFilter) (s : Statement) (b : Bool) {p q : Part}
    (h : p ≠ q) :
    (((freeText f).setAppended b q).appendPart s p).result =
        ((freeText f).appendPart s p).result ∧
      (((freeText f).setAppended b q).appendPart s p).statement =
        ((freeText f).appendPart s p).statement := by
  cases p with
  | base =>
    cases q with
    | base => exact absurd rfl h
    | whole => exact ⟨rfl, rfl⟩
  | whole =>
    cases q with
    | whole => exact absurd rfl h
    | base =>
      have same : (((freeText f).setAppended b .base).append s).result =
          ((freeText f).append s).result := by
        rw [result_append, result_append]
        rfl
      exact ⟨same, statement_append_congr (fun _ => rfl) same⟩

end Filter

theorem FieldFilter.configure_emitted {f g : FieldFilter} {c : FieldFilter.Setting}
    (h : f.configure c = .ok g) : g.emitted = f.emitted := by
  cases c with
  | addField | setCriterion =>
    obtain ⟨field, -, ⟨⟩⟩ := bind_eq_ok.mp h
    rfl
  | setMode =>
    cases h
    rfl

theorem Filter.configure_wasAppended {f g : Filter} {c : FreeTextFilter.Setting}
    (h : f.configure c = .ok g) (p : Part) : g.wasAppended p = f.wasAppended p := by
  cases f with
  | field f =>
    cases c with
    | base c =>
      obtain ⟨b, changed, rfl⟩ := map_eq_ok.mp h
      have same := FieldFilter.configure_emitted changed
      cases p <;> exact same
    | _ =>
      cases h
      rfl
  | freeText f =>
    obtain ⟨g, changed, rfl⟩ := map_eq_ok.mp h
    rcases FreeTextFilter.of_configure_eq_ok changed with
      ⟨b, base, settled, rfl⟩ | ⟨fs, -, rfl⟩ | ⟨terms, rfl⟩
    · have same := FieldFilter.configure_emitted settled
      cases p with
      | whole => rfl
      | base => exact same
    · cases p <;> rfl
    · cases p <;> rfl

namespace Session

variable {x : Session}

def run (x : Session) (actions : List Action) : Session :=
  actions.foldl (fun x a => (x.perform a).2) x

/-- To append a part of filter `j` to statement `i`. -/
def attempt (j i : Nat) : Filter.Part → Action
  | .whole => .append j i
  | .base => .appendBase j i

/-- The filter that an action may change.  A clone is a new filter. -/
def Action.subject? : Action → Option Nat
  | .configure j _ | .append j _ | .appendBase j _ => some j
  | .operate .. | .clone _ => none

theorem perform_attempt (x : Session) (j i : Nat) (p : Filter.Part) :
    x.perform (attempt j i p) =
      match x.filters[j]?, x.statements[i]? with
      | some f, some s =>
        (.filter (f.appendPart s p).result,
          ⟨x.statements.set i (f.appendPart s p).statement,
            x.filters.set j (f.appendPart s p).filter⟩)
      | _, _ => (.absent, x) := by
  cases p <;> rfl

theorem of_perform_attempt {j i : Nat} {p : Filter.Part}
    (h : (x.perform (attempt j i p)).1 = .filter (.ok ())) :
    ∃ f s t, x.filters[j]? = some f ∧ x.statements[i]? = some s ∧
      (x.perform (attempt j i p)).2 =
        ⟨x.statements.set i t, x.filters.set j (f.setAppended true p)⟩ := by
  rw [perform_attempt] at h ⊢
  cases hj : x.filters[j]? with
  | none =>
    rw [hj] at h
    cases h
  | some f =>
    cases hi : x.statements[i]? with
    | none =>
      rw [hj, hi] at h
      cases h
    | some s =>
      simp only [hj, hi, Reply.filter.injEq] at h
      obtain ⟨e, refused⟩ | ⟨t, accepted⟩ := f.appendPart_cases s p
      · rw [refused] at h
        cases h
      · refine ⟨f, s, t, rfl, rfl, ?_⟩
        simp only [accepted]

/-- A member of a list after another, or the same, member is replaced. -/
theorem getElem?_set_cases {α : Type} {l : List α} {j k : Nat} {a b : α} (hj : l[j]? = some a)
    (hk : l[k]? = some b) (c : α) :
    k ≠ j ∧ (l.set k c)[j]? = some a ∨ k = j ∧ b = a ∧ (l.set k c)[j]? = some c := by
  by_cases same : k = j
  · subst same
    refine .inr ⟨rfl, Option.some.inj (hk.symm.trans hj), ?_⟩
    rw [List.getElem?_set_self (List.getElem?_eq_some_iff.mp hj).1]
  · exact .inl ⟨same, by rw [List.getElem?_set_ne same, hj]⟩

/-- What one action makes of one filter: nothing, a new setting, or a note that a part was
appended. -/
inductive Changed (j : Nat) (f : Filter) (a : Action) : Filter → Prop
  | same : Changed j f a f
  | configured {c : FreeTextFilter.Setting} {g : Filter} (subject : a.subject? = some j)
      (set : f.configure c = .ok g) : Changed j f a g
  | appended (p : Filter.Part) (subject : a.subject? = some j) :
    Changed j f a (f.setAppended true p)

theorem perform_attempt_filter {j : Nat} {f : Filter} (h : x.filters[j]? = some f) (k i : Nat)
    (p : Filter.Part) : ∃ g, (x.perform (attempt k i p)).2.filters[j]? = some g ∧
      Changed j f (attempt k i p) g := by
  rw [perform_attempt]
  cases hk : x.filters[k]? with
  | none => exact ⟨f, h, .same⟩
  | some f' =>
    cases x.statements[i]? with
    | none => exact ⟨f, h, .same⟩
    | some s =>
      obtain ⟨e, refused⟩ | ⟨t, accepted⟩ := f'.appendPart_cases s p
      · simp only [refused, set_of_getElem? hk]
        exact ⟨f, h, .same⟩
      · simp only [accepted]
        obtain ⟨-, other⟩ | ⟨rfl, rfl, own⟩ :=
          getElem?_set_cases h hk (f'.setAppended true p)
        · exact ⟨f, other, .same⟩
        · exact ⟨_, own, .appended p (by cases p <;> rfl)⟩

theorem perform_filter {j : Nat} {f : Filter} (h : x.filters[j]? = some f) (a : Action) :
    ∃ g, (x.perform a).2.filters[j]? = some g ∧ Changed j f a g := by
  cases a with
  | append k i => exact perform_attempt_filter h k i .whole
  | appendBase k i => exact perform_attempt_filter h k i .base
  | operate i o =>
    simp only [perform]
    cases x.statements[i]? <;> exact ⟨f, h, .same⟩
  | clone k =>
    simp only [perform]
    cases x.filters[k]? with
    | none => exact ⟨f, h, .same⟩
    | some f' =>
      refine ⟨f, ?_, .same⟩
      rw [List.getElem?_append_left (List.getElem?_eq_some_iff.mp h).1, h]
  | configure k c =>
    simp only [perform]
    cases hk : x.filters[k]? with
    | none => exact ⟨f, h, .same⟩
    | some f' =>
      cases set : f'.configure c with
      | error e => exact ⟨f, by simpa only [set] using h, .same⟩
      | ok g =>
        simp only [set]
        obtain ⟨-, other⟩ | ⟨rfl, rfl, own⟩ := getElem?_set_cases h hk g
        · exact ⟨f, other, .same⟩
        · exact ⟨g, own, .configured rfl set⟩

theorem Changed.wasAppended {j : Nat} {f g : Filter} {a : Action} (h : Changed j f a g)
    {p : Filter.Part}
    (appended : f.wasAppended p = true) : g.wasAppended p = true := by
  cases h with
  | same => exact appended
  | configured _ set => rw [Filter.configure_wasAppended set, appended]
  | appended q =>
    cases f with
    | field f => cases p <;> cases q <;> rfl
    | freeText f =>
      by_cases same : q = p
      · rw [same, Filter.wasAppended_setAppended]
      · rw [Filter.wasAppended_setAppended_other f true same, appended]

theorem Changed.eq_of_other {j : Nat} {f g : Filter} {a : Action} (h : Changed j f a g)
    (other : a.subject? ≠ some j) : g = f := by
  cases h with
  | same => rfl
  | configured subject => exact absurd subject other
  | appended _ subject => exact absurd subject other

/-- Notes of what was appended stay for good. -/
theorem run_wasAppended {j : Nat} {f : Filter} (h : x.filters[j]? = some f)
    (actions : List Action) :
    ∃ g, (x.run actions).filters[j]? = some g ∧
      ∀ p, f.wasAppended p = true → g.wasAppended p = true := by
  induction actions generalizing x f with
  | nil => exact ⟨f, h, fun _ => id⟩
  | cons a actions ih =>
    -- The filter after the first action has every note of the filter before it.
    obtain ⟨f', found, changed⟩ := perform_filter h a
    obtain ⟨g, reached, kept⟩ := ih found
    exact ⟨g, reached, fun p appended => kept p (changed.wasAppended appended)⟩

theorem run_apart {j : Nat} {f : Filter} (h : x.filters[j]? = some f) {actions : List Action}
    (others : ∀ a ∈ actions, a.subject? ≠ some j) : (x.run actions).filters[j]? = some f := by
  induction actions generalizing x with
  | nil => exact h
  | cons a actions ih =>
    obtain ⟨g, found, changed⟩ := perform_filter h a
    obtain rfl := changed.eq_of_other (others a List.mem_cons_self)
    exact ih found fun b hb => others b (List.mem_cons_of_mem a hb)

theorem attempt_refused {j i : Nat} {f : Filter} {s : Statement} {p : Filter.Part}
    (hj : x.filters[j]? = some f) (hi : x.statements[i]? = some s)
    (appended : f.wasAppended p = true) :
    x.perform (attempt j i p) = (.filter (.error .alreadyEmitted), x) := by
  rw [perform_attempt, hj, hi]
  simp only [Filter.appendPart_refused appended s, set_of_getElem? hj, set_of_getElem? hi]

def setFilter (x : Session) (j : Nat) (f : Filter) : Session :=
  { x with filters := x.filters.set j f }

theorem attempt_unhindered {j i : Nat} {f : FreeTextFilter} {p q : Filter.Part}
    (hj : x.filters[j]? = some (.freeText f)) (b : Bool) (h : p ≠ q) :
    ((x.setFilter j ((Filter.freeText f).setAppended b q)).perform (attempt j i p)).1 =
        (x.perform (attempt j i p)).1 ∧
      ((x.setFilter j ((Filter.freeText f).setAppended b q)).perform
        (attempt j i p)).2.statements = (x.perform (attempt j i p)).2.statements := by
  have there := (List.getElem?_eq_some_iff.mp hj).1
  rw [perform_attempt, perform_attempt, setFilter, List.getElem?_set_self there, hj]
  cases x.statements[i]? with
  | none => exact ⟨rfl, rfl⟩
  | some s =>
    obtain ⟨result, statement⟩ := Filter.appendPart_setAppended f s b h
    exact ⟨congrArg Reply.filter result, congrArg (x.statements.set i) statement⟩

/-- A part of a filter is appended at most once. -/
structure EmitsOnce (x : Session) : Prop where
  /-- After a success, whatever happens, every further attempt is refused and changes nothing. -/
  refused : ∀ j i p q, (x.perform (attempt j i p)).1 = .filter (.ok ()) →
    (q = p ∨ ∃ f, x.filters[j]? = some (.field f)) → ∀ actions i' s,
    ((x.perform (attempt j i p)).2.run actions).statements[i']? = some s →
    ((x.perform (attempt j i p)).2.run actions).perform (attempt j i' q) =
      (.filter (.error .alreadyEmitted), (x.perform (attempt j i p)).2.run actions)
  /-- A success changes nothing in the filters but the one note. -/
  noted : ∀ j i p, (x.perform (attempt j i p)).1 = .filter (.ok ()) →
    ∃ f, x.filters[j]? = some f ∧
      (x.perform (attempt j i p)).2.filters = x.filters.set j (f.setAppended true p)
  /-- No action takes a note back. -/
  kept : ∀ (j : Nat) (f : Filter), x.filters[j]? = some f → ∀ actions, ∃ g : Filter,
    (x.run actions).filters[j]? = some g ∧ ∀ p, f.wasAppended p = true → g.wasAppended p = true
  /-- The success of a search is not noted for its base, nor that of the base for the search. -/
  apart : ∀ (f : FreeTextFilter) (b : Bool) (p q : Filter.Part), p ≠ q →
    ((Filter.freeText f).setAppended b p).wasAppended q = (Filter.freeText f).wasAppended q
  /-- Nor does either stop the other. -/
  unhindered : ∀ (j i : Nat) (f : FreeTextFilter) (b : Bool) (p q : Filter.Part), p ≠ q →
    x.filters[j]? = some (.freeText f) →
    ((x.setFilter j ((Filter.freeText f).setAppended b q)).perform (attempt j i p)).1 =
        (x.perform (attempt j i p)).1 ∧
      ((x.setFilter j ((Filter.freeText f).setAppended b q)).perform
        (attempt j i p)).2.statements = (x.perform (attempt j i p)).2.statements
  /-- A clone is the filter as it is, notes included. -/
  cloned : ∀ (j : Nat) (f : Filter), x.filters[j]? = some f →
    (x.perform (.clone j)).2 = { x with filters := x.filters ++ [f] }
  /-- Only actions on a filter itself change it, so a filter and its clone go on apart. -/
  own : ∀ (j : Nat) (f : Filter), x.filters[j]? = some f → ∀ actions : List Action,
    (∀ a ∈ actions, a.subject? ≠ some j) → (x.run actions).filters[j]? = some f

/-- In no session is a part of a filter appended twice. -/
theorem filters_emit_once (x : Session) : x.EmitsOnce where
  refused j i p q accepted part actions i' s hs := by
    obtain ⟨f, -, t, hj, -, after⟩ := of_perform_attempt accepted
    have appended : (f.setAppended true p).wasAppended q = true := by
      obtain rfl | ⟨g, whole⟩ := part
      · exact f.wasAppended_setAppended true q
      · obtain rfl := Option.some.inj (hj.symm.trans whole)
        cases q <;> rfl
    have noted : (x.perform (attempt j i p)).2.filters[j]? = some (f.setAppended true p) := by
      rw [after]
      exact List.getElem?_set_self (List.getElem?_eq_some_iff.mp hj).1
    obtain ⟨g, reached, kept⟩ := run_wasAppended noted actions
    exact attempt_refused reached hs (kept q appended)
  noted j i p accepted := by
    obtain ⟨f, -, t, hj, -, after⟩ := of_perform_attempt accepted
    exact ⟨f, hj, by rw [after]⟩
  kept _ _ h actions := run_wasAppended h actions
  apart f b _ _ h := Filter.wasAppended_setAppended_other f b h
  unhindered _ _ _ b _ _ h hj := attempt_unhindered hj b h
  cloned j f h := by
    simp only [perform, h]
  own _ _ h _ others := run_apart h others

/-- A filter that demands nothing is appended, then told of a demand and cloned, then tried on a
statement without a dialect. -/
theorem filters_emit_once_demand_added_later :
    ∃ (x y : Session) (actions : List Action),
      (x.perform (.append 0 0)).1 = .filter (.ok ()) ∧ y = (x.perform (.append 0 0)).2.run actions ∧
      y.filters.map (·.base.hasCriteria) = [true, true] ∧
      y.statements[1]? = some .detached ∧
      y.perform (.append 0 1) = (.filter (.error .alreadyEmitted), y) := by
  let x : Session := ⟨[.new .sqlite, .detached],
    [.field (.new ⟨"person", "people", [⟨"age", "age", .integer⟩]⟩)]⟩
  let actions : List Action := [.configure 0 (.base (.setCriterion "age" .isNull)), .clone 0]
  have accepted : (x.perform (attempt 0 0 .whole)).1 = .filter (.ok ()) := rfl
  exact ⟨x, _, actions, accepted, rfl, rfl, rfl,
    (filters_emit_once x).refused 0 0 .whole .whole accepted (.inl rfl) actions 1 .detached rfl⟩

end Session
end EntityFilter
