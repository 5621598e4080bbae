import EntityFilter.Proofs.Template

/-!
The types of parameters.  A filter checks its values before it binds them, so every parameter has a
value that is not null and fits the parameter's kind.
-/

namespace EntityFilter

/-- A parameter that a driver can take: its value is not null and fits its kind. -/
def Binding.Typed (b : Binding) : Prop := b.value ≠ .null ∧ b.value.fits b.kind = true

/-- Null is the only value that fits a kind without values. -/
theorem Value.eq_null_of_fits_binary {v : Value} (h : v.fits .binary = true) : v = .null := by
  cases v <;> first | rfl | cases h

theorem Binding.Typed.kind_ne_binary {b : Binding} (h : b.Typed) : b.kind ≠ .binary := by
  intro binary
  exact h.1 (Value.eq_null_of_fits_binary (binary ▸ h.2))

namespace Criterion

/-- What a check that succeeds has found. -/
theorem of_check_eq_ok {c : Criterion} {f : Field} (h : c.check f = .ok ()) :
    c.defect? = none ∧ c.supports f.kind = true ∧ ∀ v ∈ c.values, v.fits f.kind = true := by
  rw [check] at h
  split at h
  · cases h
  · rename_i sound
    split at h
    · rename_i supported
      split at h
      · cases h
      · rename_i fits
        exact ⟨sound, supported, by simpa using fits⟩
    · cases h

/-- A test of equality binds its own value or none, and never null. -/
theorem mem_compared {kind : Kind} {v w : Value} (h : w ∈ compared kind v) :
    w = v ∧ w ≠ .null := by
  cases v with
  | null => cases h
  | boolean b =>
    rw [compared] at h
    split at h
    · cases h
    · obtain rfl := List.mem_singleton.mp h
      simp
  | _ =>
    obtain rfl := List.mem_singleton.mp h
    simp

/-- A criterion binds its own values, or the text of a pattern. -/
theorem mem_bound {kind : Kind} {c : Criterion} {v : Value} (h : v ∈ c.bound kind) :
    v ∈ c.values ∨ ∃ s, v = .text s := by
  cases c with
  | equals w | notEquals w => exact .inl (List.mem_singleton.mpr (mem_compared h).1)
  | compares | between | among => exact .inl h
  | like p => exact .inr ⟨p.pattern, List.mem_singleton.mp h⟩
  | isNull | isNotNull => cases h

/-- Only a test of equality may have null for a value. -/
theorem ne_null_of_defect? {c : Criterion} (h : c.defect? = none) (other : c.usage ≠ .equality) :
    ∀ v ∈ c.values, v ≠ .null := by
  intro v member
  cases c with
  | equals | notEquals => exact absurd rfl other
  | compares op w =>
    obtain rfl := List.mem_singleton.mp member
    simpa [defect?, Value.isNull_iff] using h
  | between low high =>
    have bounds : low ≠ .null ∧ high ≠ .null := by
      simpa [defect?, ← Value.isNull_iff] using h
    rcases List.mem_pair.mp member with rfl | rfl
    · exact bounds.1
    · exact bounds.2
  | among values =>
    rw [defect?] at h
    split at h
    · cases h
    · split at h
      · cases h
      · rename_i without
        rintro rfl
        exact without (List.any_eq_true.mpr ⟨.null, member, rfl⟩)
  | like | isNull | isNotNull => cases member

/-- Every value that a checked criterion binds is one that the check has seen, or the pattern of a
comparison on a field of text. -/
theorem typed_of_check {c : Criterion} {f : Field} (h : c.check f = .ok ()) :
    ∀ v ∈ c.bound f.kind, v ≠ .null ∧ v.fits f.kind = true := by
  obtain ⟨sound, supported, fits⟩ := of_check_eq_ok h
  intro v member
  cases c with
  | equals w | notEquals w =>
    obtain ⟨rfl, some⟩ := mem_compared member
    exact ⟨some, fits v List.mem_cons_self⟩
  | compares | between | among => exact ⟨ne_null_of_defect? sound nofun v member, fits v member⟩
  | like p =>
    obtain rfl := List.mem_singleton.mp member
    exact ⟨nofun, supported⟩
  | isNull | isNotNull => cases member

/-- The parameters that a demand on a field has led to. -/
structure Yields (c : Criterion) (f : Field) (bs : List Binding) : Prop where
  contents : bs.map Binding.content = (c.bound f.kind).map (f.kind, ·)
  kind : ∀ b ∈ bs, b.kind = f.kind
  typed : ∀ b ∈ bs, b.Typed
  /-- A pattern is bound for a field of text only. -/
  pattern : ∀ p, c = .like p → f.kind.isTextual = true
  binary : f.kind = .binary → bs = []

theorem yields_of_check {c : Criterion} {f : Field} {bs : List Binding} (h : c.check f = .ok ())
    (contents : bs.map Binding.content = (c.bound f.kind).map (f.kind, ·)) : c.Yields f bs := by
  have origin : ∀ b ∈ bs, ∃ v ∈ c.bound f.kind, (f.kind, v) = b.content := by
    intro b member
    have found := List.mem_map_of_mem (f := Binding.content) member
    rw [contents] at found
    exact List.mem_map.mp found
  have typed : ∀ b ∈ bs, b.kind = f.kind ∧ b.Typed := by
    intro b member
    obtain ⟨v, bound, same⟩ := origin b member
    obtain ⟨kind, value⟩ := Prod.mk.inj same
    have checked := typed_of_check h v bound
    rw [kind, value] at checked
    exact ⟨kind.symm, checked⟩
  refine ⟨contents, fun b hb => (typed b hb).1, fun b hb => (typed b hb).2, ?_, fun binary => ?_⟩
  · rintro p rfl
    exact (of_check_eq_ok h).2.1
  · refine List.eq_nil_iff_forall_not_mem.mpr fun b member => ?_
    exact (typed b member).2.kind_ne_binary ((typed b member).1.trans binary)

end Criterion

/-- A list that has been mapped to lists in a row falls into the parts that belong to them. -/
theorem exists_parts {α β γ : Type} {f : β → γ} {g : α → List γ} {as : List α} {bs : List β}
    (h : bs.map f = as.flatMap g) :
    ∃ parts : List (List β), bs = parts.flatten ∧
      List.Forall₂ (fun a part => part.map f = g a) as parts := by
  induction as generalizing bs with
  | nil =>
    rw [List.flatMap_nil, List.map_eq_nil_iff] at h
    exact ⟨[], h, .nil⟩
  | cons a as ih =>
    rw [List.flatMap_cons] at h
    obtain ⟨first, rest, rfl, own, others⟩ := List.map_eq_append_iff.mp h
    obtain ⟨parts, rfl, each⟩ := ih others
    exact ⟨first :: parts, rfl, .cons own each⟩

/-- The demands of a filter that is valid account for all that it binds. -/
theorem FieldFilter.yields_of_validate {f : FieldFilter} (valid : f.validate = .ok ())
    {bs : List Binding} (contents : bs.map Binding.content = f.bound) :
    ∃ parts : List (List Binding), bs = parts.flatten ∧
      List.Forall₂ (fun demand part => demand.2.Yields demand.1 part) f.demands parts := by
  obtain ⟨parts, whole, each⟩ := exists_parts contents
  have checked := (List.forall₂_and_left ..).mpr ⟨f.check_of_validate valid, each⟩
  exact ⟨parts, whole, checked.imp fun _ _ ⟨checked, own⟩ => Criterion.yields_of_check checked own⟩

namespace Filter

/-- The parameters of a search are one text, which has its words. -/
def Searches (f : Filter) (words : List Binding) : Prop :=
  match f with
  | field _ => words = []
  | freeText f => ∃ name terms, f.terms = some terms ∧ words = [⟨name, .text, .text terms⟩]

theorem Searches.typed {f : Filter} {words : List Binding} (h : f.Searches words) :
    ∀ b ∈ words, b.Typed := by
  intro b member
  cases f with
  | field f =>
    rw [h] at member
    cases member
  | freeText f =>
    obtain ⟨name, terms, -, rfl⟩ := h
    obtain rfl := List.mem_singleton.mp member
    exact ⟨nofun, rfl⟩

/-- The parameters of a complete filter are those of its demands, and behind them the words of its
search. -/
theorem parts_of_complete {f : Filter} (h : f.Complete) {added : List Binding}
    (contents : added.map Binding.content = f.bound) :
    ∃ (parts : List (List Binding)) (words : List Binding), added = parts.flatten ++ words ∧
      List.Forall₂ (fun demand part => demand.2.Yields demand.1 part) f.base.demands parts ∧
      f.Searches words := by
  cases f with
  | field f =>
    obtain ⟨parts, whole, yields⟩ := f.yields_of_validate h contents
    exact ⟨parts, [], by rw [whole, List.append_nil], yields, rfl⟩
  | freeText f =>
    obtain ⟨first, words, rfl, own, search⟩ := List.map_eq_append_iff.mp contents
    obtain ⟨parts, rfl, yields⟩ := f.base.yields_of_validate h.2.2 own
    obtain ⟨terms, some⟩ := Option.isSome_iff_exists.mp h.1
    have given := FreeTextFilter.terms_of_searchTerms? some
    obtain ⟨⟨name, kind, value⟩, rfl, same⟩ := List.map_eq_singleton_iff.mp search
    obtain ⟨rfl, rfl⟩ := Prod.mk.inj same
    refine ⟨parts, _, rfl, yields, name, terms, given, ?_⟩
    rw [given, Option.getD_some]

/-- All that a filter binds is well typed.  Its parameters are those of its demands in their order,
each under the kind of the demand's field, and behind them the words of a search, once, as a text.
Patterns are bound for fields of text only, and fields of binary data have no parameters. -/
theorem appended_parameters_typed {f : Filter} {s : Statement}
    (accepted : (f.append s).result = .ok ()) :
    ∃ (parts : List (List Binding)) (words : List Binding),
      (f.append s).statement.parameters = s.parameters ++ (parts.flatten ++ words) ∧
      List.Forall₂ (fun demand part => demand.2.Yields demand.1 part) f.base.demands parts ∧
      f.Searches words ∧
      ∀ b ∈ parts.flatten ++ words, b.value ≠ .null ∧ b.value.fits b.kind = true ∧
        b.kind ≠ .binary := by
  obtain ⟨e, refused⟩ | ⟨-, -, d, hd, -⟩ := f.append_cases s
  · rw [refused] at accepted
    cases accepted
  obtain ⟨complete, added, contents, -, gained⟩ := append_gains hd accepted
  have parameters : (f.append s).statement.parameters = s.parameters ++ added := by
    obtain ⟨-, -, rfl, unchanged⟩ | ⟨-, -, gains⟩ := gained
    · rw [unchanged, List.append_nil]
    · exact gains.parameters
  obtain ⟨parts, words, rfl, yields, searches⟩ := parts_of_complete complete contents
  refine ⟨parts, words, parameters, yields, searches, fun b member => ?_⟩
  have typed : b.Typed := by
    rcases List.mem_append.mp member with demanded | searched
    · obtain ⟨part, known, inside⟩ := List.mem_flatten.mp demanded
      obtain ⟨demand, -, yields⟩ := exists_of_mem_forall₂ yields.flip known
      exact yields.typed b inside
    · exact searches.typed b searched
  exact ⟨typed.1, typed.2, typed.kind_ne_binary⟩

/-- A search whose base has a range, a pattern, a boolean, a test of binary data, and two names of
one column, appended behind a parameter of other origin. -/
theorem appended_parameters_typed_all_forms :
    ∃ (f : Filter) (s : Statement) (parts : List (List Binding)) (words : List Binding),
      (f.append s).result = .ok () ∧ s.parameters.length = 1 ∧
      (f.append s).statement.parameters = s.parameters ++ (parts.flatten ++ words) ∧
      List.Forall₂ (fun demand part => demand.2.Yields demand.1 part) f.base.demands parts ∧
      parts.map List.length = [2, 1, 0, 0] ∧ f.Searches words ∧
      ∀ b ∈ parts.flatten ++ words, b.value ≠ .null ∧ b.value.fits b.kind = true ∧
        b.kind ≠ .binary := by
  let f : Filter := .freeText {
    base := {
      entity := ⟨"person", "people", []⟩
      fields := ⟨[⟨"age", "age", .integer⟩, ⟨"name", "name", .text⟩, ⟨"active", "active", .boolean⟩,
        ⟨"photo", "photo", .binary⟩]⟩
      criteria := [("photo", .equals .null), ("name", .like (.contains "100%")),
        ("age", .between (.integer 1) (.integer 9)), ("active", .equals (.boolean true))] }
    searchFields := ⟨[⟨"first", "first", .text⟩, ⟨"last", "last", .ansiText⟩]⟩
    terms := some "x" }
  let s : Statement := ((Statement.new .clickhouse).bind .integer (.integer 1)).2
  have accepted : (f.append s).result = .ok () := rfl
  obtain ⟨parts, words, parameters, yields, searches, typed⟩ := appended_parameters_typed accepted
  have lengths : parts.map List.length =
      f.base.demands.map fun p => (p.2.bound p.1.kind).length := by
    rw [← List.forall₂_eq_eq_eq, List.forall₂_map_left_iff, List.forall₂_map_right_iff]
    refine yields.flip.imp fun part demand yields => ?_
    simpa using congrArg List.length yields.contents
  exact ⟨f, s, parts, words, accepted, rfl, parameters, yields, lengths, searches, typed⟩

end Filter

end EntityFilter
