import EntityFilter.Proofs.Registry
import EntityFilter.Statement.Basic

/-!
Markers tell parameters apart: numbered markers by the number, named markers by the name.
-/

namespace EntityFilter

/-- Texts that agree are the same before the last separator. -/
theorem append_cons_inj_of_last {α : Type} {x : α} {as bs cs ds : List α} (hb : x ∉ bs)
    (hd : x ∉ ds) (h : as ++ x :: bs = cs ++ x :: ds) : as = cs := by
  rcases List.append_eq_append_iff.mp h with ⟨us, rfl, hus⟩ | ⟨us, rfl, hus⟩
  · cases us with
    | nil => simp
    | cons u us =>
      obtain ⟨-, rfl⟩ := List.cons.inj hus
      exact absurd (by simp) hb
  · cases us with
    | nil => simp
    | cons u us =>
      obtain ⟨-, rfl⟩ := List.cons.inj hus
      exact absurd (by simp) hd

namespace Dialect

/-- The dialects that number their markers; the others name them. -/
def numbersMarkers : Dialect → Bool
  | sqlite | postgres | duckdb => true
  | clickhouse | mssql | mysql => false

theorem colon_not_mem_markerType (k : Kind) : ':' ∉ (markerType k).toList := by
  cases k <;> decide

/-- Equal markers have equal numbers or equal names. -/
theorem marker_eq {d : Dialect} {p q : Parameter} (h : d.marker p = d.marker q) :
    if d.numbersMarkers then p.ordinal = q.ordinal else p.name = q.name := by
  have chars := congrArg String.toList h
  cases d with
  | sqlite | postgres | duckdb =>
    refine numeral_injective (String.toList_injective ?_)
    simpa [marker] using chars
  | mssql | mysql =>
    refine String.toList_injective ?_
    simpa [marker, toString] using chars
  | clickhouse =>
    have left : ':' ∉ (markerType p.kind).toList ++ ['\x7d'] := by
      simpa using colon_not_mem_markerType p.kind
    have right : ':' ∉ (markerType q.kind).toList ++ ['\x7d'] := by
      simpa using colon_not_mem_markerType q.kind
    refine String.toList_injective (append_cons_inj_of_last left right ?_)
    simpa [marker] using chars

end Dialect

/-- What a binding binds: a value, under a kind. -/
def Binding.content (b : Binding) : Kind × Value := (b.kind, b.value)

/-- The parameters that bindings become behind `n` earlier ones. -/
def numbered : Nat → List Binding → List Parameter
  | _, [] => []
  | n, b :: rest => ⟨b.name, n + 1, b.kind⟩ :: numbered (n + 1) rest

/-- The markers of bindings behind `n` earlier ones. -/
def Dialect.markers (d : Dialect) (n : Nat) (bs : List Binding) : List String :=
  (numbered n bs).map d.marker

theorem numbered_append (n : Nat) (as bs : List Binding) :
    numbered n (as ++ bs) = numbered n as ++ numbered (n + as.length) bs := by
  induction as generalizing n with
  | nil => rfl
  | cons a as ih =>
    simp only [List.cons_append, numbered, ih, List.length_cons]
    rw [show n + 1 + as.length = n + (as.length + 1) by omega]

theorem numbered_getElem? (n : Nat) (bs : List Binding) (i : Nat) :
    (numbered n bs)[i]? = bs[i]?.map fun b => ⟨b.name, n + i + 1, b.kind⟩ := by
  induction bs generalizing n i with
  | nil => rfl
  | cons b bs ih =>
    cases i with
    | zero => rfl
    | succ i =>
      simp only [numbered, List.getElem?_cons_succ, ih]
      rw [show n + 1 + i + 1 = n + (i + 1) + 1 by omega]

@[simp] theorem numbered_length (n : Nat) (bs : List Binding) :
    (numbered n bs).length = bs.length := by
  induction bs generalizing n with
  | nil => rfl
  | cons b bs ih => simp [numbered, ih]

@[simp] theorem Dialect.markers_length (d : Dialect) (n : Nat) (bs : List Binding) :
    (d.markers n bs).length = bs.length := by
  simp [markers]

theorem Dialect.markers_append (d : Dialect) (n : Nat) (as bs : List Binding) :
    d.markers n (as ++ bs) = d.markers n as ++ d.markers (n + as.length) bs := by
  rw [markers, numbered_append, List.map_append]
  rfl

theorem of_mem_numbered {n : Nat} {bs : List Binding} {p : Parameter} (h : p ∈ numbered n bs) :
    n < p.ordinal ∧ p.name ∈ bs.map Binding.name := by
  induction bs generalizing n with
  | nil => simp [numbered] at h
  | cons b bs ih =>
    rcases List.mem_cons.mp h with rfl | h
    · exact ⟨Nat.lt_succ_self n, List.mem_cons_self⟩
    · exact ⟨Nat.lt_of_succ_lt (ih h).1, List.mem_cons_of_mem _ (ih h).2⟩

theorem Dialect.markers_nodup (d : Dialect) (n : Nat) {bs : List Binding}
    (distinct : (bs.map Binding.name).Nodup) : (d.markers n bs).Nodup := by
  induction bs generalizing n with
  | nil => exact List.nodup_nil
  | cons b bs ih =>
    obtain ⟨fresh, distinct⟩ := List.nodup_cons.mp distinct
    refine List.nodup_cons.mpr ⟨fun member => ?_, ih (n + 1) distinct⟩
    obtain ⟨p, hp, same⟩ := List.mem_map.mp member
    obtain ⟨behind, named⟩ := of_mem_numbered hp
    have same := marker_eq same
    cases hd : d.numbersMarkers with
    | true =>
      simp only [hd, if_true] at same
      omega
    | false =>
      simp only [hd, Bool.false_eq_true, if_false] at same
      exact fresh (same ▸ named)

end EntityFilter
