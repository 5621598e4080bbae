import Mathlib.Data.List.Dedup
import Mathlib.Data.List.Forall2
import Mathlib.Data.List.Induction

/-!
Lists whose members have keys, when only the first or only the last member of each key counts.
-/

namespace EntityFilter

variable {α β κ κ' : Type} [DecidableEq κ] [DecidableEq κ']

/-- The members of a list whose keys do not come again. -/
def latestBy (key : α → κ) : List α → List α
  | [] => []
  | a :: rest => if key a ∈ rest.map key then latestBy key rest else a :: latestBy key rest

/-- The members of a list whose keys have not come before. -/
def earliestBy (key : α → κ) (l : List α) : List α := (latestBy key l.reverse).reverse

variable {key : α → κ} {l : List α}

theorem map_latestBy (key : α → κ) (l : List α) :
    (latestBy key l).map key = (l.map key).dedup := by
  induction l with
  | nil => rfl
  | cons a rest ih =>
    by_cases again : key a ∈ rest.map key
    · rw [latestBy, if_pos again, List.map_cons, List.dedup_cons_of_mem again, ih]
    · rw [latestBy, if_neg again, List.map_cons, List.map_cons, List.dedup_cons_of_notMem again,
        ih]

theorem latestBy_sublist (key : α → κ) (l : List α) : (latestBy key l).Sublist l := by
  induction l with
  | nil => exact .slnil
  | cons a rest ih =>
    rw [latestBy]
    split
    · exact ih.cons a
    · exact ih.cons_cons a

theorem latestBy_eq_self (h : (l.map key).Nodup) : latestBy key l = l := by
  apply (latestBy_sublist key l).eq_of_length
  have keys := congrArg List.length (map_latestBy key l)
  rwa [h.dedup, List.length_map, List.length_map] at keys

theorem latestBy_comp {g : κ → κ'} (hg : Function.Injective g) (key : α → κ) (l : List α) :
    latestBy (g ∘ key) l = latestBy key l := by
  induction l with
  | nil => rfl
  | cons a rest ih =>
    have again : (g ∘ key) a ∈ rest.map (g ∘ key) ↔ key a ∈ rest.map key := by
      rw [← List.map_map]
      exact List.mem_map_of_injective hg
    simp only [latestBy, again, ih]

/-- Lists with the same keys keep their members at the same places. -/
theorem forall₂_latestBy {key' : β → κ} {R : α → β → Prop} (keys : ∀ a b, R a b → key a = key' b)
    {m : List β} (h : List.Forall₂ R l m) : List.Forall₂ R (latestBy key l) (latestBy key' m) := by
  induction h with
  | nil => exact .nil
  | @cons a b l m first rest ih =>
    have same : l.map key = m.map key' := by
      rw [← List.forall₂_eq_eq_eq, List.forall₂_map_left_iff, List.forall₂_map_right_iff]
      exact rest.imp keys
    rw [latestBy, latestBy, same, keys a b first]
    split
    · exact ih
    · exact .cons first ih

theorem lookup_reverse_eq_none_iff (entries : List (κ × β)) (k : κ) :
    entries.reverse.lookup k = none ↔ k ∉ entries.map Prod.fst := by
  rw [List.lookup_eq_none_iff, List.mem_map]
  constructor
  · rintro absent ⟨e, member, rfl⟩
    simpa using absent e (List.mem_reverse.mpr member)
  · intro absent e member
    rw [bne_iff_ne]
    rintro rfl
    exact absent ⟨e, List.mem_reverse.mp member, rfl⟩

/-- The last entry of a key is what a search from the end finds. -/
theorem mem_latestBy_iff {entries : List (κ × β)} {k : κ} {v : β} :
    (k, v) ∈ latestBy Prod.fst entries ↔ entries.reverse.lookup k = some v := by
  induction entries with
  | nil => simp [latestBy]
  | cons e rest ih =>
    have absent := lookup_reverse_eq_none_iff rest k
    have own : [e].lookup k = if k = e.1 then some e.2 else none := by
      rw [List.lookup_cons, List.lookup_nil]
      by_cases same : k = e.1
      · rw [same, beq_self_eq_true, if_pos rfl]
      · rw [beq_false_of_ne same, if_neg same]
    rw [latestBy, List.reverse_cons, List.lookup_append, own]
    by_cases again : e.1 ∈ rest.map Prod.fst
    · rw [if_pos again, ih]
      cases found : rest.reverse.lookup k with
      | some w => rfl
      | none =>
        have other : k ≠ e.1 := fun same => absent.mp found (same ▸ again)
        rw [if_neg other, Option.none_or]
    · rw [if_neg again, List.mem_cons, ih]
      cases found : rest.reverse.lookup k with
      | some w =>
        have other : k ≠ e.1 := by
          rintro rfl
          rw [absent.mpr again] at found
          cases found
        simp [Prod.ext_iff, other]
      | none =>
        by_cases same : k = e.1
        · simp [Prod.ext_iff, same, eq_comm]
        · simp [Prod.ext_iff, same]

/-- When no key comes twice, a search finds just the entries that there are. -/
theorem lookup_eq_some_iff_mem {entries : List (κ × β)} (distinct : (entries.map Prod.fst).Nodup)
    {k : κ} {v : β} : entries.lookup k = some v ↔ (k, v) ∈ entries := by
  have keys : (entries.reverse.map Prod.fst).Nodup := by
    rwa [List.map_reverse, List.nodup_reverse]
  rw [← List.reverse_reverse entries, ← mem_latestBy_iff, latestBy_eq_self keys,
    List.reverse_reverse, List.mem_reverse]

theorem lookup_congr_of_perm {entries entries' : List (κ × β)} (h : entries.Perm entries')
    (distinct : (entries.map Prod.fst).Nodup) (k : κ) : entries.lookup k = entries'.lookup k := by
  have distinct' : (entries'.map Prod.fst).Nodup := (h.map Prod.fst).nodup_iff.mp distinct
  ext v
  rw [lookup_eq_some_iff_mem distinct, lookup_eq_some_iff_mem distinct', h.mem_iff]

theorem earliestBy_concat (key : α → κ) (l : List α) (a : α) :
    earliestBy key (l ++ [a]) =
      if key a ∈ l.map key then earliestBy key l else earliestBy key l ++ [a] := by
  rw [earliestBy, List.reverse_append, List.reverse_singleton, List.singleton_append, latestBy,
    List.map_reverse]
  by_cases before : key a ∈ l.map key
  · rw [if_pos (List.mem_reverse.mpr before), if_pos before, earliestBy]
  · rw [if_neg (mt List.mem_reverse.mp before), if_neg before, List.reverse_cons, earliestBy]

theorem earliestBy_eq_self (h : (l.map key).Nodup) : earliestBy key l = l := by
  rw [earliestBy, latestBy_eq_self, List.reverse_reverse]
  rwa [List.map_reverse, List.nodup_reverse]

/-- Behind a list, the first members with keys that the list does not have are added. -/
theorem earliestBy_append (key : α → κ) (l m : List α) :
    earliestBy key (l ++ m) =
      earliestBy key l ++ earliestBy key (m.filter fun a => key a ∉ l.map key) := by
  induction m using List.reverseRecOn with
  | nil => simp [earliestBy, latestBy]
  | append_singleton m a ih =>
    rw [← List.append_assoc, earliestBy_concat, List.filter_append, ih]
    by_cases before : key a ∈ l.map key
    · have known : key a ∈ (l ++ m).map key := by
        rw [List.map_append]
        exact List.mem_append_left _ before
      rw [if_pos known, List.filter_cons_of_neg (by simpa using before), List.filter_nil,
        List.append_nil]
    · have since : key a ∈ (m.filter fun b => key b ∉ l.map key).map key ↔
          key a ∈ (l ++ m).map key := by
        simp only [List.map_append, List.mem_append, List.mem_map, List.mem_filter,
          decide_eq_true_eq] at before ⊢
        constructor
        · rintro ⟨b, ⟨member, -⟩, same⟩
          exact .inr ⟨b, member, same⟩
        · rintro (known | ⟨b, member, same⟩)
          · exact absurd known before
          · exact ⟨b, ⟨member, same ▸ before⟩, same⟩
      rw [List.filter_cons_of_pos (by simpa using before), List.filter_nil, earliestBy_concat]
      by_cases again : key a ∈ (l ++ m).map key
      · rw [if_pos again, if_pos (since.mpr again)]
      · rw [if_neg again, if_neg (mt since.mp again), List.append_assoc]

theorem map_earliestBy (key : α → κ) (l : List α) :
    (earliestBy key l).map key = (l.map key).reverse.dedup.reverse := by
  rw [earliestBy, List.map_reverse, map_latestBy, List.map_reverse]

theorem mem_map_earliestBy {k : κ} : k ∈ (earliestBy key l).map key ↔ k ∈ l.map key := by
  rw [map_earliestBy, List.mem_reverse, List.mem_dedup, List.mem_reverse]

theorem nodup_map_earliestBy (key : α → κ) (l : List α) : ((earliestBy key l).map key).Nodup := by
  rw [map_earliestBy, List.nodup_reverse]
  exact List.nodup_dedup _

theorem mem_of_mem_earliestBy {a : α} (h : a ∈ earliestBy key l) : a ∈ l :=
  List.mem_reverse.mp ((latestBy_sublist key _).subset (List.mem_reverse.mp h))

end EntityFilter
