import Mathlib.Data.List.Forall2

/-!
Outcomes of computations that may fail: what was computed on the way when a whole one succeeds, and
what failed when it does not.
-/

namespace EntityFilter

variable {α β ε ε' : Type}

theorem bind_eq_ok {x : Except ε α} {k : α → Except ε β} {b : β} :
    x >>= k = .ok b ↔ ∃ a, x = .ok a ∧ k a = .ok b := by
  constructor
  · intro h
    cases x with
    | error e => cases h
    | ok a => exact ⟨a, rfl, h⟩
  · rintro ⟨a, rfl, h⟩
    exact h

theorem pure_eq_ok {a b : α} : (pure a : Except ε α) = .ok b ↔ a = b :=
  ⟨Except.ok.inj, congrArg _⟩

theorem mapError_eq_ok {f : ε → ε'} {x : Except ε α} {a : α} :
    x.mapError f = .ok a ↔ x = .ok a := by
  cases x <;> simp [Except.mapError]

theorem map_eq_ok {f : α → β} {x : Except ε α} {b : β} :
    x.map f = .ok b ↔ ∃ a, x = .ok a ∧ f a = b := by
  cases x <;> simp [Except.map]

theorem map_eq_error {f : α → β} {x : Except ε α} {e : ε} :
    x.map f = .error e ↔ x = .error e := by
  cases x <;> simp [Except.map]

theorem mapM_eq_ok {f : α → Except ε β} {as : List α} {bs : List β} :
    as.mapM f = .ok bs ↔ List.Forall₂ (fun a b => f a = .ok b) as bs := by
  induction as generalizing bs with
  | nil =>
    rw [List.mapM_nil, pure_eq_ok, List.forall₂_nil_left_iff, eq_comm]
  | cons a as ih =>
    rw [List.mapM_cons, bind_eq_ok, List.forall₂_cons_left_iff]
    constructor
    · rintro ⟨b, first, h⟩
      obtain ⟨bs, rest, whole⟩ := bind_eq_ok.mp h
      exact ⟨b, bs, first, ih.mp rest, (pure_eq_ok.mp whole).symm⟩
    · rintro ⟨b, bs, first, rest, rfl⟩
      exact ⟨b, first, bind_eq_ok.mpr ⟨bs, ih.mpr rest, rfl⟩⟩

theorem exists_of_mem_forall₂ {R : α → β → Prop} {as : List α} {bs : List β}
    (h : List.Forall₂ R as bs) {a : α} (ha : a ∈ as) : ∃ b ∈ bs, R a b := by
  induction h with
  | nil => cases ha
  | @cons a' b as bs first _ ih =>
    rcases List.mem_cons.mp ha with rfl | later
    · exact ⟨b, List.mem_cons_self, first⟩
    · obtain ⟨b', member, related⟩ := ih later
      exact ⟨b', List.mem_cons_of_mem b member, related⟩

theorem forM_eq_ok {check : α → Except ε Unit} {as : List α} :
    as.forM check = .ok () ↔ ∀ a ∈ as, check a = .ok () := by
  induction as with
  | nil => exact iff_of_true rfl fun _ member => nomatch member
  | cons a as ih =>
    rw [List.forall_mem_cons, ← ih]
    constructor
    · intro h
      obtain ⟨⟨⟩, first, rest⟩ := bind_eq_ok.mp h
      exact ⟨first, rest⟩
    · rintro ⟨first, rest⟩
      exact bind_eq_ok.mpr ⟨(), first, rest⟩

/-- Checks one after the other fail with the first that fails. -/
theorem forM_eq_error {check : α → Except ε Unit} {as : List α} {e : ε} :
    as.forM check = .error e ↔ ∃ before a after, as = before ++ a :: after ∧
      (∀ b ∈ before, check b = .ok ()) ∧ check a = .error e := by
  constructor
  · intro h
    induction as with
    | nil => cases h
    | cons a as ih =>
      cases first : check a with
      | error e' =>
        rw [List.forM, first] at h
        cases h
        exact ⟨[], a, as, rfl, fun _ member => (nomatch member), first⟩
      | ok =>
        rw [List.forM, first] at h
        obtain ⟨before, b, after, rfl, passed, failed⟩ := ih h
        exact ⟨a :: before, b, after, rfl, List.forall_mem_cons.mpr ⟨first, passed⟩, failed⟩
  · rintro ⟨before, a, after, rfl, passed, failed⟩
    induction before with
    | nil =>
      rw [List.nil_append, List.forM, failed]
      rfl
    | cons b before ih =>
      obtain ⟨first, others⟩ := List.forall_mem_cons.mp passed
      rw [List.cons_append, List.forM, first]
      exact ih others

theorem foldlM_cons_eq_ok {f : β → α → Except ε β} {a : α} {as : List α} {b c : β} :
    (a :: as).foldlM f b = .ok c ↔ ∃ b', f b a = .ok b' ∧ as.foldlM f b' = .ok c := by
  rw [List.foldlM_cons, bind_eq_ok]

end EntityFilter
