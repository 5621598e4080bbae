import EntityFilter.Statement.Registry
import Mathlib.Data.List.Nodup
import Mathlib.Data.List.Perm.Subperm

/-!
The registry never gives out a name that is taken, and giving names back restores the registry that
they were taken from.
-/

namespace EntityFilter

theorem numeral_injective : Function.Injective (toString : Nat → String) := by
  intro m n h
  have digits : Nat.toDigits 10 m = Nat.toDigits 10 n := by
    simpa [Nat.toString_eq_repr, Nat.repr_eq_ofList_toDigits] using congrArg String.toList h
  rw [← Nat.ofDigitChars_ten_toDigits (n := m), digits, Nat.ofDigitChars_ten_toDigits]

namespace Registry

theorem isIssued_iff {r : Registry} {name : String} :
    r.isIssued name = true ↔ name ∈ r.issued := by
  simp [isIssued]

theorem nameAt_injective (r : Registry) : Function.Injective r.nameAt :=
  fun _ _ h => numeral_injective ((String.append_right_inj _).mp h)

/-- All names before the end of the search are taken, and it ends at a free name unless it was cut
short. -/
theorem firstFree_spec (r : Registry) (fuel k : Nat) :
    k ≤ r.firstFree fuel k ∧
      (∀ j, k ≤ j → j < r.firstFree fuel k → r.nameAt j ∈ r.issued) ∧
      (r.nameAt (r.firstFree fuel k) ∉ r.issued ∨ r.firstFree fuel k = k + fuel) := by
  induction fuel generalizing k with
  | zero =>
    rw [firstFree]
    exact ⟨Nat.le_refl k, fun j hj hlt => by omega, .inr rfl⟩
  | succ fuel ih =>
    by_cases taken : r.isIssued (r.nameAt k) = true
    · obtain ⟨ahead, between, last⟩ := ih (k + 1)
      rw [firstFree, if_pos taken]
      refine ⟨by omega, fun j hj hlt => ?_, last.imp_right fun h => by omega⟩
      rcases Nat.lt_or_eq_of_le hj with h | rfl
      · exact between j h hlt
      · exact isIssued_iff.mp taken
    · rw [firstFree, if_neg taken]
      exact ⟨Nat.le_refl k, fun j hj hlt => by omega, .inl (mt isIssued_iff.mpr taken)⟩

/-- A registry cannot have given out one name more than it has given out. -/
theorem exists_free (r : Registry) (k : Nat) :
    ∃ j, k ≤ j ∧ j ≤ k + r.issued.length ∧ r.nameAt j ∉ r.issued := by
  by_contra none
  simp only [not_exists, not_and, not_not] at none
  have distinct : ((List.range' k (r.issued.length + 1)).map r.nameAt).Nodup :=
    List.Nodup.map r.nameAt_injective List.nodup_range'
  have taken : (List.range' k (r.issued.length + 1)).map r.nameAt ⊆ r.issued := by
    intro name hname
    obtain ⟨j, hj, rfl⟩ := List.mem_map.mp hname
    rw [List.mem_range'_1] at hj
    exact none j hj.1 (by omega)
  have := (List.subperm_of_subset distinct taken).length_le
  rw [List.length_map, List.length_range'] at this
  omega

theorem nameAt_next_not_mem (r : Registry) : r.nameAt r.next ∉ r.issued := by
  obtain ⟨-, between, free | last⟩ := r.firstFree_spec r.issued.length (r.counter + 1)
  · exact free
  · obtain ⟨j, hj, hle, free⟩ := r.exists_free (r.counter + 1)
    have : j = r.next := by
      by_contra hne
      exact free (between j hj (by unfold next at hne; omega))
    exact this ▸ free

/-- Names that were free before they were taken can be given back. -/
theorem release_taken (r : Registry) (counter : Nat) {names : List String}
    (fresh : ∀ name ∈ names, name ∉ r.issued) :
    ({ r with counter, issued := names.reverse ++ r.issued } : Registry).release r.counter names =
      r := by
  have given : names.reverse.filter (fun name => !names.contains name) = [] := by
    simp [List.filter_eq_nil_iff]
  have kept : r.issued.filter (fun name => !names.contains name) = r.issued := by
    refine List.filter_eq_self.mpr fun name hname => ?_
    simpa using fun h => fresh name h hname
  simp only [release, List.filter_append, given, kept, List.nil_append]

end Registry
end EntityFilter
