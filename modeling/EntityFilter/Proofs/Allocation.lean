import EntityFilter.Proofs.Registry
import Mathlib.Order.Interval.Finset.Nat

/-!
The search for a new name.  A registry tries one number after the other, however many of their names
are taken.  The search ends all the same: different numbers have different names, and only finitely
many names are taken.
-/

namespace EntityFilter.Registry

variable {r : Registry} {k : Nat}

/-- The numbers to come whose names are free. -/
def freeNumbers (r : Registry) : Set Nat := { k | r.counter < k ∧ r.nameAt k ∉ r.issued }

/-- The name of a number, and the registry that has given it out. -/
def give (r : Registry) (k : Nat) : String × Registry :=
  (r.nameAt k, { r with counter := k, issued := r.nameAt k :: r.issued })

/-- Tries the next number.  The counter moves on to it, and its name is given out if it is free. -/
def attempt (r : Registry) : Option String × Registry :=
  if r.isIssued (r.nameAt (r.counter + 1)) then (none, { r with counter := r.counter + 1 })
  else
    let (name, r) := r.give (r.counter + 1)
    (some name, r)

/-- Numbers are tried until the name of one is free, which takes `n` tries. -/
inductive Finds : Registry → Nat → String × Registry → Prop
  | free {r t : Registry} {name : String} (h : r.attempt = (some name, t)) : Finds r 1 (name, t)
  | taken {r s : Registry} {n : Nat} {answer : String × Registry} (h : r.attempt = (none, s))
      (rest : Finds s n answer) : Finds r (n + 1) answer

theorem attempt_of_free (h : r.nameAt (r.counter + 1) ∉ r.issued) :
    r.attempt = (some (r.nameAt (r.counter + 1)), (r.give (r.counter + 1)).2) := by
  rw [attempt, if_neg (mt isIssued_iff.mp h)]
  rfl

theorem attempt_of_taken (h : r.nameAt (r.counter + 1) ∈ r.issued) :
    r.attempt = (none, { r with counter := r.counter + 1 }) := by
  rw [attempt, if_pos (isIssued_iff.mpr h)]

/-- A search has one end at most. -/
theorem Finds.unique {n m : Nat} {a b : String × Registry} (ha : Finds r n a) (hb : Finds r m b) :
    m = n ∧ b = a := by
  induction ha generalizing m with
  | free h =>
    cases hb with
    | free h' =>
      rw [h, Prod.mk.injEq, Option.some.injEq] at h'
      obtain ⟨rfl, rfl⟩ := h'
      exact ⟨rfl, rfl⟩
    | taken h' =>
      rw [h] at h'
      cases h'
  | taken h _ ih =>
    cases hb with
    | free h' =>
      rw [h] at h'
      cases h'
    | taken h' rest =>
      rw [h, Prod.mk.injEq] at h'
      obtain ⟨-, rfl⟩ := h'
      obtain ⟨rfl, rfl⟩ := ih rest
      exact ⟨rfl, rfl⟩

theorem isLeast_of_taken (taken : r.nameAt (r.counter + 1) ∈ r.issued)
    (h : IsLeast r.freeNumbers k) :
    IsLeast ({ r with counter := r.counter + 1 } : Registry).freeNumbers k := by
  obtain ⟨⟨ahead, free⟩, least⟩ := h
  have other : k ≠ r.counter + 1 := by
    rintro rfl
    exact free taken
  have further : r.counter + 1 < k := by omega
  exact ⟨⟨further, free⟩, fun j hj => least ⟨Nat.lt_of_succ_lt hj.1, hj.2⟩⟩

/-- The search ends with the least free number, after as many tries as that is ahead of the
counter. -/
theorem Finds.of_isLeast (h : IsLeast r.freeNumbers k) : Finds r (k - r.counter) (r.give k) := by
  obtain ⟨n, hn⟩ := Nat.exists_eq_add_of_lt h.1.1
  -- The induction is on the numbers in between, whose names are all taken.
  induction n generalizing r with
  | zero =>
    subst hn
    rw [Nat.add_zero, Nat.add_sub_cancel_left]
    exact .free (attempt_of_free h.1.2)
  | succ n ih =>
    have taken : r.nameAt (r.counter + 1) ∈ r.issued := by
      by_contra first
      have := h.2 ⟨Nat.lt_succ_self r.counter, first⟩
      omega
    have rest := ih (isLeast_of_taken taken h) (by show k = r.counter + 1 + n + 1; omega)
    rw [show k - r.counter = k - (r.counter + 1) + 1 by omega]
    exact .taken (attempt_of_taken taken) rest

/-- The numbers before the first free one have different names, which are all taken. -/
theorem sub_counter_le (h : IsLeast r.freeNumbers k) :
    k - r.counter ≤ r.issued.toFinset.card + 1 := by
  have taken : ∀ j ∈ Finset.Ioo r.counter k, r.nameAt j ∈ r.issued.toFinset := by
    intro j hj
    rw [Finset.mem_Ioo] at hj
    rw [List.mem_toFinset]
    by_contra free
    have := h.2 ⟨hj.1, free⟩
    omega
  have count := Finset.card_le_card_of_injOn r.nameAt taken r.nameAt_injective.injOn
  rw [Nat.card_Ioo] at count
  omega

theorem next_isLeast (r : Registry) : IsLeast r.freeNumbers r.next := by
  obtain ⟨ahead, between, -⟩ := r.firstFree_spec r.issued.length (r.counter + 1)
  refine ⟨⟨ahead, r.nameAt_next_not_mem⟩, fun j hj => ?_⟩
  by_contra before
  exact hj.2 (between j hj.1 (Nat.lt_of_not_le before))

/-- A new name is the stem and the least number behind the counter that makes a free name of it.
The search for it has no bound of its own, but it ends, with this name only, after one try more at
most than there are names taken. -/
theorem allocate_finds_least (r : Registry) :
    ∃ k, IsLeast { k | r.counter < k ∧ r.stem ++ toString k ∉ r.issued } k ∧
      r.allocate = (r.stem ++ toString k,
        ⟨r.stem, k, (r.stem ++ toString k) :: r.issued⟩) ∧
      k - r.counter ≤ r.issued.toFinset.card + 1 ∧
      Finds r (k - r.counter) r.allocate ∧
      ∀ n answer, Finds r n answer → n = k - r.counter ∧ answer = r.allocate := by
  have found : Finds r (r.next - r.counter) r.allocate := .of_isLeast r.next_isLeast
  exact ⟨r.next, r.next_isLeast, rfl, sub_counter_le r.next_isLeast, found,
    fun _ _ other => found.unique other⟩

/-- Under the stem `p1` the names of three numbers are taken, two of them by names that were chosen
and one by a name under the stem `p`. -/
theorem allocate_finds_least_past_taken :
    ∃ r : Registry, r.allocate.1 = "p14" ∧ r.allocate.2.counter = 4 ∧ Finds r 4 r.allocate := by
  let r : Registry := ⟨"p1", 0, ["p12", "p13", "p11", "p15"]⟩
  obtain ⟨k, -, given, -, found, -⟩ := allocate_finds_least r
  have number : k = 4 := by
    have counter : r.allocate.2.counter = 4 := by decide
    rw [given] at counter
    exact counter
  rw [number] at found
  exact ⟨r, by decide, by decide, found⟩

end EntityFilter.Registry
