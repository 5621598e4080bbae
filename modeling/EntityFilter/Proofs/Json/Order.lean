import EntityFilter.Json.Reader
import EntityFilter.Proofs.Outcome
import Mathlib.Data.List.Pairwise

/-!
The order of members.  A record reads the same from its members in any order, because every field
of a record fills a slot of its own, and fills it once.
-/

namespace EntityFilter.Json

namespace Node

/-- The same node but for the order of its members, when items and values are related by `R`. -/
inductive Shuffled (R : Node → Node → Prop) : Node → Node → Prop
  | same (n : Node) : Shuffled R n n
  | array {items items' : List Node} (related : List.Forall₂ R items items') :
      Shuffled R (.array items) (.array items')
  | object {members middle members' : List (Node × Node)}
      (related : List.Forall₂ (fun m m' => m.1 = m'.1 ∧ R m.2 m'.2) members middle)
      (order : middle.Perm members') : Shuffled R (.object members) (.object members')

/-- The same node but for the order of members in its outermost levels. -/
def Reordered : Nat → Node → Node → Prop
  | 0 => Eq
  | levels + 1 => Shuffled (Reordered levels)

theorem Reordered.eq_of_scalar {levels : Nat} {n n' : Node} (h : Reordered levels n n')
    (scalar : ∀ items members, n ≠ .array items ∧ n ≠ .object members) : n' = n := by
  cases levels with
  | zero => exact h.symm
  | succ levels =>
    cases h with
    | same => rfl
    | array => exact absurd rfl (scalar _ []).1
    | object => exact absurd rfl (scalar [] _).2

theorem Reordered.eq_of_empty {levels : Nat} {n' : Node} (h : Reordered levels (.object []) n') :
    n' = .object [] := by
  cases levels with
  | zero => exact h.symm
  | succ levels =>
    cases h with
    | same => rfl
    | object related order =>
      cases related
      rw [order.nil_eq]

theorem anyBroken_eq (items : List Node) : anyBroken items = (items.map isBroken).any id := by
  induction items with
  | nil => rfl
  | cons n items ih => simp [anyBroken, ih]

theorem anyMemberBroken_eq (members : List (Node × Node)) :
    anyMemberBroken members = (members.map fun m => m.1.isBroken || m.2.isBroken).any id := by
  induction members with
  | nil => rfl
  | cons m members ih => simp [anyMemberBroken, ih]

theorem values?_isSome (room : Nat) (items : List Node) :
    (values? room items).isSome = (items.map fun n => (n.value? room).isSome).all id := by
  induction items with
  | nil => rfl
  | cons n items ih =>
    rw [values?, List.map_cons, List.all_cons, ← ih]
    cases n.value? room <;> cases values? room items <;> rfl

theorem memberValues?_isSome (room : Nat) (known : List (String × Json))
    (members : List (Node × Node)) :
    (memberValues? room known members).isSome =
      (members.map fun m => m.1.asString?.isSome && (m.2.value? room).isSome).all id := by
  induction members generalizing known with
  | nil => rfl
  | cons m members ih =>
    rw [memberValues?, List.map_cons, List.all_cons]
    cases m.1.asString? with
    | none => rfl
    | some k =>
      cases m.2.value? room with
      | none => rfl
      | some v => exact ih (setMember k v known)

theorem map_eq_of_forall₂ {α β : Type} {R : α → α → Prop} {f : α → β} {as bs : List α}
    (related : List.Forall₂ R as bs) (h : ∀ a b, R a b → f a = f b) : as.map f = bs.map f := by
  induction related with
  | nil => rfl
  | cons first _ ih => rw [List.map_cons, List.map_cons, h _ _ first, ih]

theorem Reordered.isBroken_eq {levels : Nat} {n n' : Node} (h : Reordered levels n n') :
    n.isBroken = n'.isBroken := by
  induction levels generalizing n n' with
  | zero => rw [h]
  | succ levels ih =>
    cases h with
    | same => rfl
    | array related =>
      rw [isBroken, isBroken, anyBroken_eq, anyBroken_eq, map_eq_of_forall₂ related fun _ _ => ih]
    | object related order =>
      rw [isBroken, isBroken, anyMemberBroken_eq, anyMemberBroken_eq, map_eq_of_forall₂ related]
      · exact (order.map _).any_eq
      · rintro m m' ⟨key, value⟩
        rw [key, ih value]

theorem Reordered.value?_isSome_eq {levels : Nat} {n n' : Node} (h : Reordered levels n n')
    (room : Nat) : (n.value? room).isSome = (n'.value? room).isSome := by
  induction levels generalizing n n' room with
  | zero => rw [h]
  | succ levels ih =>
    cases h with
    | same => rfl
    | array related =>
      unfold value?
      split
      · rfl
      · rw [Option.isSome_map, Option.isSome_map, values?_isSome, values?_isSome,
          map_eq_of_forall₂ related fun _ _ related => ih related (room - 1)]
    | object related order =>
      unfold value?
      split
      · rfl
      · rw [Option.isSome_map, Option.isSome_map, memberValues?_isSome, memberValues?_isSome,
          map_eq_of_forall₂ related]
        · exact (order.map _).all_eq
        · rintro m m' ⟨key, value⟩
          rw [key, ih value]

end Node

theorem Document.value?_isSome (d : Document) :
    d.value?.isSome = (!d.trailing && (d.root.value? maxDepth).isSome) := by
  unfold Document.value?
  cases d.trailing <;> simp

/-- What a reader makes of a node it makes of the node reordered. -/
def Stable {α : Type} (levels : Nat) (read : Reader α) : Prop :=
  ∀ n n' a, Node.Reordered levels n n' → read n = .ok a → read n' = .ok a

namespace Stable

open Node

variable {α : Type} {levels : Nat} {read : Reader α}

theorem zero (read : Reader α) : Stable 0 read := by
  rintro n n' a rfl h
  exact h

theorem of_scalar (levels : Nat)
    (scalar : ∀ a items members, read (.array items) ≠ .ok a ∧ read (.object members) ≠ .ok a) :
    Stable levels read := by
  intro n n' a h ok
  rw [h.eq_of_scalar]
  · exact ok
  · intro items members
    constructor
    · rintro rfl
      exact (scalar a items []).1 ok
    · rintro rfl
      exact (scalar a [] members).2 ok

theorem readString (levels : Nat) : Stable levels Node.readString :=
  of_scalar levels fun _ _ _ => ⟨nofun, nofun⟩

theorem readBool (levels : Nat) : Stable levels Node.readBool :=
  of_scalar levels fun _ _ _ => ⟨nofun, nofun⟩

theorem readOptionalString (levels : Nat) : Stable levels (readOptional Node.readString) :=
  of_scalar levels fun _ _ _ => ⟨nofun, nofun⟩

theorem readList (stable : Stable levels read) : Stable (levels + 1) (Node.readList read) := by
  intro n n' as h ok
  cases h with
  | same => exact ok
  | @array items items' related =>
    unfold Node.readList at ok ⊢
    rw [mapM_eq_ok] at ok ⊢
    induction related generalizing as with
    | nil => exact ok
    | cons first _ ih =>
      cases ok with
      | cons head rest => exact .cons (stable _ _ _ first head) (ih _ rest)
  | object => cases ok

theorem readVariant_object_eq_ok {options : List (String × α)} {members : List (Node × Node)}
    {a : α} : Node.readVariant .kept options (.object members) = .ok a ↔
      ∃ name value, members = [(.string name, value)] ∧ findVariant options name = .ok a ∧
        (value = .null ∨ value = .object []) := by
  constructor
  · intro h
    simp only [Node.readVariant] at h
    split at h
    · cases ‹ReadMode.kept = _›
    · cases ‹ReadMode.kept = _›
    · obtain ⟨b, found, h⟩ := bind_eq_ok.mp h
      split at h
      · exact ⟨_, _, rfl, found.trans h, .inl rfl⟩
      · exact ⟨_, _, rfl, found.trans h, .inr rfl⟩
      · cases h
    · cases h
  · rintro ⟨name, value, rfl, found, rfl | rfl⟩ <;> simp [Node.readVariant, found]

theorem readVariant (levels : Nat) (options : List (String × α)) :
    Stable levels (Node.readVariant .kept options) := by
  intro n n' a h ok
  cases levels with
  | zero => rwa [← h]
  | succ levels =>
    cases h with
    | same => exact ok
    | array => cases ok
    | @object members middle members' related order =>
      obtain ⟨name, value, rfl, found, empty⟩ := readVariant_object_eq_ok.mp ok
      obtain ⟨⟨key, value'⟩, _, ⟨rfl, valueRelated⟩, rest, rfl⟩ :=
        List.forall₂_cons_left_iff.mp related
      cases rest
      rw [List.perm_singleton.mp order.symm]
      refine readVariant_object_eq_ok.mpr ⟨name, value', rfl, found, ?_⟩
      rcases empty with rfl | rfl
      · exact .inl (valueRelated.eq_of_scalar fun _ _ => ⟨nofun, nofun⟩)
      · exact .inr valueRelated.eq_of_empty

end Stable

/-- A field of a record: its name, its place in the drafts of the record, and how its value is
read. -/
structure Slot (D : Type) where
  {β : Type}
  name : String
  get : D → Option β
  put : D → Option β → D
  read : Reader β
  get_put : ∀ d b, get (put d b) = b

namespace Slot

variable {D : Type} {s t : Slot D}

/-- Reads a value into the slot, which must be empty. -/
def set (s : Slot D) (d : D) : Reader D := fun n => do
  return s.put d (← once s.name (s.get d) s.read n)

theorem set_eq_ok {d d' : D} {n : Node} :
    s.set d n = .ok d' ↔ s.get d = none ∧ ∃ b, s.read n = .ok b ∧ s.put d (some b) = d' := by
  unfold set once
  cases s.get d <;> cases s.read n <;> simp

theorem stable_set {levels : Nat} (stable : Stable levels s.read) (d : D) :
    Stable levels (s.set d) := by
  intro n n' d' related ok
  obtain ⟨empty, b, read, rfl⟩ := set_eq_ok.mp ok
  exact set_eq_ok.mpr ⟨empty, b, stable _ _ _ related read, rfl⟩

/-- Filling either slot leaves the other as it is. -/
@[mk_iff]
structure Apart (s t : Slot D) : Prop where
  get_put : ∀ d b, s.get (t.put d b) = s.get d
  put_get : ∀ d b, t.get (s.put d b) = t.get d
  put_put : ∀ d a b, t.put (s.put d a) b = s.put (t.put d b) a

instance : Std.Symm (Apart (D := D)) where
  symm _ _ h := ⟨h.put_get, h.get_put, fun d a b => (h.put_put d b a).symm⟩

end Slot

namespace RecordShape

variable {D : Type} {shape : RecordShape D} {slots : List (Slot D)} {levels : Nat}

/-- Every field of a shape fills a slot of its own. -/
structure Slotted (shape : RecordShape D) (slots : List (Slot D)) : Prop where
  fields : shape.fields = slots.map fun s => (s.name, s.set)
  apart : slots.Pairwise Slot.Apart

theorem readMember_eq_ok {d d' : D} {m : Node × Node} :
    shape.readMember d m = .ok d' ↔ ∃ key, m.1 = .string key ∧
      ((∃ set, shape.fields.lookup key = some set ∧ set d m.2 = .ok d') ∨
        (shape.fields.lookup key = none ∧ shape.closed = false ∧ m.2.isBroken = false ∧
          d = d')) := by
  obtain ⟨key, value⟩ := m
  cases key with
  | string key =>
    rw [readMember]
    cases found : shape.fields.lookup key with
    | some set => simp [found, -List.lookup_eq_none_iff]
    | none =>
      cases shape.closed <;> cases value.isBroken <;> simp [found, -List.lookup_eq_none_iff]
  | _ => simp [readMember]

theorem Slotted.exists_slot (slotted : shape.Slotted slots) {key : String} {set : D → Reader D}
    (h : shape.fields.lookup key = some set) : ∃ s ∈ slots, set = s.set := by
  rw [slotted.fields] at h
  obtain ⟨before, after, split, _⟩ := List.lookup_eq_some_iff.mp h
  have member : (key, set) ∈ slots.map fun s => (s.name, s.set) := by simp [split]
  obtain ⟨s, among, same⟩ := List.mem_map.mp member
  exact ⟨s, among, (Prod.ext_iff.mp same).2.symm⟩

/-- Two fields can be read in either order.  A field that occurs twice is an error in both. -/
theorem Slotted.set_swap (slotted : shape.Slotted slots) {s t : Slot D} (hs : s ∈ slots)
    (ht : t ∈ slots) {d d₁ d₂ : D} {n n' : Node} (first : s.set d n = .ok d₁)
    (second : t.set d₁ n' = .ok d₂) : ∃ d', t.set d n' = .ok d' ∧ s.set d' n = .ok d₂ := by
  obtain ⟨emptyS, a, readS, rfl⟩ := Slot.set_eq_ok.mp first
  obtain ⟨emptyT, b, readT, rfl⟩ := Slot.set_eq_ok.mp second
  by_cases same : s = t
  · subst same
    rw [s.get_put] at emptyT
    cases emptyT
  · have apart : s.Apart t := slotted.apart.forall hs ht same
    rw [apart.put_get] at emptyT
    refine ⟨t.put d (some b), Slot.set_eq_ok.mpr ⟨emptyT, b, readT, rfl⟩,
      Slot.set_eq_ok.mpr ⟨?_, a, readS, (apart.put_put d _ _).symm⟩⟩
    rw [apart.get_put, emptyS]

theorem Slotted.readMember_swap (slotted : shape.Slotted slots) {d d₁ d₂ : D}
    {m m' : Node × Node} (first : shape.readMember d m = .ok d₁)
    (second : shape.readMember d₁ m' = .ok d₂) :
    ∃ d', shape.readMember d m' = .ok d' ∧ shape.readMember d' m = .ok d₂ := by
  simp only [readMember_eq_ok] at first second ⊢
  obtain ⟨key, hkey, ⟨set, found, filled⟩ | ⟨missed, ignored, whole, rfl⟩⟩ := first <;>
    obtain ⟨key', hkey', ⟨set', found', filled'⟩ | ⟨missed', ignored', whole', rfl⟩⟩ := second
  · obtain ⟨s, hs, rfl⟩ := slotted.exists_slot found
    obtain ⟨t, ht, rfl⟩ := slotted.exists_slot found'
    obtain ⟨d', before, after⟩ := slotted.set_swap hs ht filled filled'
    exact ⟨d', ⟨key', hkey', .inl ⟨_, found', before⟩⟩, key, hkey, .inl ⟨_, found, after⟩⟩
  · exact ⟨d, ⟨key', hkey', .inr ⟨missed', ignored', whole', rfl⟩⟩,
      key, hkey, .inl ⟨set, found, filled⟩⟩
  · exact ⟨d₂, ⟨key', hkey', .inl ⟨set', found', filled'⟩⟩,
      key, hkey, .inr ⟨missed, ignored, whole, rfl⟩⟩
  · exact ⟨d, ⟨key', hkey', .inr ⟨missed', ignored', whole', rfl⟩⟩,
      key, hkey, .inr ⟨missed, ignored, whole, rfl⟩⟩

theorem Slotted.readMembers_perm (slotted : shape.Slotted slots) {d d' : D}
    {members members' : List (Node × Node)} (order : members.Perm members')
    (ok : shape.readMembers d members = .ok d') : shape.readMembers d members' = .ok d' := by
  unfold readMembers at ok ⊢
  -- Two neighbours change places by `readMember_swap`; the rest follows one by one.
  induction order generalizing d with
  | nil => exact ok
  | cons m _ ih =>
    obtain ⟨d₁, first, rest⟩ := foldlM_cons_eq_ok.mp ok
    exact foldlM_cons_eq_ok.mpr ⟨d₁, first, ih rest⟩
  | swap m m' members =>
    obtain ⟨d₁, first, rest⟩ := foldlM_cons_eq_ok.mp ok
    obtain ⟨d₂, second, rest⟩ := foldlM_cons_eq_ok.mp rest
    obtain ⟨d₃, first, second⟩ := slotted.readMember_swap first second
    exact foldlM_cons_eq_ok.mpr ⟨d₃, first, foldlM_cons_eq_ok.mpr ⟨d₂, second, rest⟩⟩
  | trans _ _ ih ih' => exact ih' (ih ok)

theorem Slotted.readMembers_congr (slotted : shape.Slotted slots)
    (stable : ∀ s ∈ slots, Stable levels s.read) {d d' : D} {members members' : List (Node × Node)}
    (related : List.Forall₂ (fun m m' => m.1 = m'.1 ∧ Node.Reordered levels m.2 m'.2)
      members members')
    (ok : shape.readMembers d members = .ok d') : shape.readMembers d members' = .ok d' := by
  unfold readMembers at ok ⊢
  induction related generalizing d with
  | nil => exact ok
  | cons same _ ih =>
    obtain ⟨d₁, first, rest⟩ := foldlM_cons_eq_ok.mp ok
    refine foldlM_cons_eq_ok.mpr ⟨d₁, readMember_eq_ok.mpr ?_, ih rest⟩
    obtain ⟨key, hkey, h⟩ := readMember_eq_ok.mp first
    refine ⟨key, same.1 ▸ hkey, ?_⟩
    rcases h with ⟨set, found, filled⟩ | ⟨missed, ignored, whole, rfl⟩
    · obtain ⟨s, hs, rfl⟩ := slotted.exists_slot found
      exact .inl ⟨_, found, s.stable_set (stable s hs) d _ _ _ same.2 filled⟩
    · exact .inr ⟨missed, ignored, same.2.isBroken_eq ▸ whole, rfl⟩

theorem foldlM_slots_congr (stable : ∀ s ∈ slots, Stable levels s.read) {d d' : D}
    {items items' : List Node} (related : List.Forall₂ (Node.Reordered levels) items items')
    (ok : ((slots.map fun s => (s.name, s.set)).zip items).foldlM
      (fun d (field, item) => field.2 d item) d = .ok d') :
    ((slots.map fun s => (s.name, s.set)).zip items').foldlM
      (fun d (field, item) => field.2 d item) d = .ok d' := by
  induction slots generalizing d items items' with
  | nil => exact ok
  | cons s slots ih =>
    cases related with
    | nil => exact ok
    | cons first others =>
      obtain ⟨d₁, filled, rest⟩ := foldlM_cons_eq_ok.mp ok
      exact foldlM_cons_eq_ok.mpr
        ⟨d₁, s.stable_set (stable s List.mem_cons_self) d _ _ _ first filled,
          ih (fun t ht => stable t (List.mem_cons_of_mem s ht)) others rest⟩

theorem Slotted.readItems_congr (slotted : shape.Slotted slots)
    (stable : ∀ s ∈ slots, Stable levels s.read) {mode : ReadMode} {d d' : D}
    {items items' : List Node} (related : List.Forall₂ (Node.Reordered levels) items items')
    (ok : shape.readItems mode d items = .ok d') : shape.readItems mode d items' = .ok d' := by
  unfold readItems at ok ⊢
  rw [← related.length_eq]
  obtain ⟨d₁, filled, rest⟩ := bind_eq_ok.mp ok
  refine bind_eq_ok.mpr ⟨d₁, ?_, rest⟩
  rw [slotted.fields] at filled ⊢
  exact foldlM_slots_congr stable related filled

/-- A record reads the same from its members in any order. -/
theorem Slotted.stable_read (slotted : shape.Slotted slots)
    (stable : ∀ s ∈ slots, Stable levels s.read) (mode : ReadMode) (d : D) :
    Stable (levels + 1) (shape.read mode d) := by
  intro n n' d' related ok
  cases related with
  | same => exact ok
  | array related => exact slotted.readItems_congr stable related ok
  | object related order =>
    exact slotted.readMembers_perm order (slotted.readMembers_congr stable related ok)

end RecordShape
end EntityFilter.Json
