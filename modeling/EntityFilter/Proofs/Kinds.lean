import EntityFilter.Proofs.Conditions

/-!
The kinds of values in a request.  A value is read for the kind of the field that its condition
names, and bound under the kind of the field that the filter has for its column.  Where the fields
of a column are of one kind, these kinds agree.
-/

namespace EntityFilter

/-- A value is refused because it does not fit the kind of its field. -/
def FilterError.isMisfit : FilterError → Bool
  | unsupportedCriterion _ (.misfit ..) => true
  | _ => false

theorem Value.fits_of_ofScalar? {kind : Kind} {j : Json} {v : Value}
    (h : ofScalar? kind j = some v) : v.fits kind = true := by
  unfold ofScalar? at h
  split at h
  -- A decimal may be spelled as a string.
  case h_8 =>
    split at h <;> cases h
    rfl
  -- Whole numbers, dates, instants and guids are read from what is there.
  case h_5 | h_10 | h_11 | h_12 =>
    obtain ⟨_, -, rfl⟩ := Option.map_eq_some_iff.mp h
    rfl
  all_goals
    cases h
    try rfl

/-- Null is accepted for every kind, and any other value if it spells a value of the kind. -/
theorem Value.ofJson_eq_ok {kind : Kind} {j : Json} {v : Value} :
    ofJson kind j = .ok v ↔
      j.isNull = true ∧ v = .null ∨
        j.isNull = false ∧ kind ≠ .binary ∧ ofScalar? kind j = some v := by
  unfold ofJson
  cases null : j.isNull with
  | true => simp [eq_comm]
  | false =>
    by_cases binary : kind = .binary
    · simp [binary]
    · cases ofScalar? kind j <;> simp [binary]

theorem Value.fits_of_ofJson {kind : Kind} {j : Json} {v : Value} (h : ofJson kind j = .ok v) :
    v.fits kind = true := by
  obtain ⟨-, rfl⟩ | ⟨-, -, spelled⟩ := ofJson_eq_ok.mp h
  · rfl
  · exact fits_of_ofScalar? spelled

/-- The values that an operator demands are spelled in JSON for the kind. -/
theorem Operator.Means.spelled {kind : Kind} {op : Operator} {j : Json} {c : Criterion}
    (h : op.Means kind j c) : ∀ v ∈ c.values, ∃ item, Value.ofJson kind item = .ok v := by
  intro v member
  cases h with
  | equals value | notEquals value | compares _ value =>
    obtain rfl := List.mem_singleton.mp member
    exact ⟨_, value⟩
  | between _ lower upper =>
    rcases List.mem_pair.mp member with rfl | rfl
    · exact ⟨_, lower⟩
    · exact ⟨_, upper⟩
  | among _ values =>
    obtain ⟨item, -, spelled⟩ := exists_of_mem_forall₂ values.flip member
    exact ⟨item, spelled⟩
  | contains | startsWith | endsWith | isNull | isNotNull => cases member

namespace Condition

theorem fits_of_demand? {e : Entity} {c : Condition} {p : Field × Criterion}
    (h : c.demand? e = some p) : ∀ v ∈ p.2.values, v.fits p.1.kind = true := by
  intro v member
  obtain ⟨item, spelled⟩ := (means_of_demand? h).spelled v member
  exact Value.fits_of_ofJson spelled

end Condition

namespace Criterion

theorem defect?_isMisfit (c : Criterion) (name : String) {defect : CriterionDefect}
    (h : c.defect? = some defect) :
    (FilterError.unsupportedCriterion name defect).isMisfit = false := by
  cases c with
  | compares | between =>
    rw [defect?] at h
    split at h <;> cases h
    rfl
  | among =>
    rw [defect?] at h
    split at h
    · cases h
      rfl
    · split at h <;> cases h
      rfl
  | _ => cases h

/-- A criterion whose values fit the field is not refused for a value that does not. -/
theorem check_isMisfit {c : Criterion} {f : Field} (fits : ∀ v ∈ c.values, v.fits f.kind = true)
    {error : FilterError} (h : c.check f = .error error) : error.isMisfit = false := by
  rw [check] at h
  split at h
  · rename_i defect found
    cases h
    exact c.defect?_isMisfit f.name found
  · split at h
    · split at h
      · rename_i v found
        have unfit := List.find?_some found
        rw [fits v (List.mem_of_find?_eq_some found)] at unfit
        cases unfit
      · cases h
    · cases h
      rfl

theorem clause_congr (d : Dialect) (c : Criterion) {f g : Field}
    (column : f.nativeName = g.nativeName) (kind : f.kind = g.kind) :
    c.clause d f = c.clause d g := by
  cases c <;> simp only [clause, column, kind]

end Criterion

theorem FieldFilter.exists_of_validate_eq_error {f : FieldFilter} {error : FilterError}
    (h : f.validate = .error error) : ∃ p ∈ f.demands, p.2.check p.1 = .error error := by
  rw [validate_eq, forM_eq_error] at h
  obtain ⟨before, p, after, demands, -, failed⟩ := h
  exact ⟨p, demands ▸ List.mem_append_cons_self, failed⟩

namespace Filter

/-- A value that does not fit is refused by the check of the base, and nowhere else. -/
theorem validate_of_misfit {f : Filter} {s : Statement} {error : FilterError}
    (h : (f.append s).result = .error error) (misfit : error.isMisfit = true) :
    f.base.validate = .error error := by
  rw [result_append] at h
  split_ifs at h
  · cases h
    cases misfit
  · cases h
    cases misfit
  · cases h
    cases misfit
  · cases h
    cases misfit
  · exact h

end Filter

namespace FilterSpec

/-- The fields of one column that the base of a filter is told of are of one kind. -/
def Unambiguous (e : Entity) (spec : FilterSpec) : Prop :=
  ∀ a ∈ spec.mentioned e, ∀ b ∈ spec.mentioned e, a.nativeName = b.nativeName → a.kind = b.kind

theorem unambiguous_of_fields {e : Entity}
    (h : ∀ a ∈ e.fields, ∀ b ∈ e.fields, a.nativeName = b.nativeName → a.kind = b.kind)
    (spec : FilterSpec) : spec.Unambiguous e :=
  fun a ha b hb => h a (mem_fields_of_mem_mentioned ha) b (mem_fields_of_mem_mentioned hb)

/-- The values of conditions go by the fields that the conditions name: there, they are rendered and
bound, and they fit. -/
def KeepsKinds (e : Entity) (spec : FilterSpec) (f : Filter) : Prop :=
  ∃ cs demands, cs.Perm (Condition.standing e spec.conditions) ∧
    List.Forall₂ (fun c p => c.demand? e = some p) cs demands ∧
    (∀ d, f.base.predicates d = demands.map fun (named, c) => c.clause d named) ∧
    (∀ d, f.Joins d spec.mode (f.base.predicates d)) ∧
    f.base.bound = demands.flatMap fun (named, c) => (c.bound named.kind).map (named.kind, ·)

/-- A demand of a filter, and the demand of the condition behind it as the condition names its
field: they are the same but for the field, which is one of the same column and kind. -/
structure Alike (p q : Field × Criterion) : Prop where
  column : p.1.nativeName = q.1.nativeName
  kind : p.1.kind = q.1.kind
  criterion : p.2 = q.2

/-- Where fields are unambiguous, the field of a demand may be taken to be the named one. -/
theorem exists_named {e : Entity} {spec : FilterSpec} (unambiguous : spec.Unambiguous e)
    {ps : List (Field × Criterion)} {cs : List Condition} (own : ∀ c ∈ cs, c ∈ spec.conditions)
    (h : List.Forall₂ (fun p c => p.1 ∈ spec.mentioned e ∧
      Condition.States e c (p.1.nativeName, p.2)) ps cs) :
    ∃ named, List.Forall₂ (fun c q => c.demand? e = some q) cs named ∧
      List.Forall₂ Alike ps named := by
  induction h with
  | nil => exact ⟨[], .nil, .nil⟩
  | @cons p c ps cs first _ ih =>
    obtain ⟨mentioned, field, demand, column⟩ := first
    obtain ⟨named, demanded, alike⟩ := ih fun c member => own c (List.mem_cons_of_mem _ member)
    have known : field ∈ spec.mentioned e := by
      refine List.mem_filterMap.mpr ⟨c.field, ?_, Condition.field?_of_demand? demand⟩
      exact List.mem_append_right _ (List.mem_map_of_mem (own c List.mem_cons_self))
    refine ⟨(field, p.2) :: named, .cons demand demanded, .cons ⟨column.symm, ?_, rfl⟩ alike⟩
    exact unambiguous p.1 mentioned field known column.symm

theorem demands_alike {e : Entity} {spec : FilterSpec} {f : Filter} (h : spec.build e = .ok f)
    (unambiguous : spec.Unambiguous e) :
    ∃ cs named, cs.Perm (Condition.standing e spec.conditions) ∧
      List.Forall₂ (fun c q => c.demand? e = some q) cs named ∧
      List.Forall₂ Alike f.base.demands named := by
  obtain ⟨cs, perm, aligned⟩ := demands_of_build h
  have own : ∀ c ∈ cs, c ∈ spec.conditions := by
    intro c member
    exact (latestBy_sublist _ _).subset (perm.subset member)
  obtain ⟨named, demanded, alike⟩ := exists_named unambiguous own aligned
  exact ⟨cs, named, perm, demanded, alike⟩

theorem keepsKinds_of_build {e : Entity} {spec : FilterSpec} {f : Filter}
    (h : spec.build e = .ok f) (unambiguous : spec.Unambiguous e) : spec.KeepsKinds e f := by
  obtain ⟨cs, named, perm, demanded, alike⟩ := demands_alike h unambiguous
  refine ⟨cs, named, perm, demanded, fun d => ?_, fun d => ?_, ?_⟩
  · rw [FieldFilter.predicates_eq, ← List.forall₂_eq_eq_eq, List.forall₂_map_left_iff,
      List.forall₂_map_right_iff]
    refine alike.imp fun p q same => ?_
    show p.2.clause d p.1 = q.2.clause d q.1
    rw [same.criterion, Criterion.clause_congr d q.2 same.column same.kind]
  · rw [← mode_of_build h]
    exact f.joins_predicates d
  · rw [FieldFilter.bound, List.flatMap_def, List.flatMap_def]
    apply congrArg
    rw [← List.forall₂_eq_eq_eq, List.forall₂_map_left_iff, List.forall₂_map_right_iff]
    refine alike.imp fun p q same => ?_
    show (p.2.bound p.1.kind).map (p.1.kind, ·) = (q.2.bound q.1.kind).map (q.1.kind, ·)
    rw [same.criterion, same.kind]

/-- A filter whose fields are unambiguous is never refused for a value of the wrong kind. -/
theorem isMisfit_of_build {e : Entity} {spec : FilterSpec} {f : Filter} (h : spec.build e = .ok f)
    (unambiguous : spec.Unambiguous e) {s : Statement} {error : FilterError}
    (refused : (f.append s).result = .error error) : error.isMisfit = false := by
  obtain ⟨cs, named, -, demanded, alike⟩ := demands_alike h unambiguous
  by_contra misfit
  rw [Bool.not_eq_false] at misfit
  obtain ⟨p, member, failed⟩ :=
    FieldFilter.exists_of_validate_eq_error (Filter.validate_of_misfit refused misfit)
  obtain ⟨q, known, same⟩ := exists_of_mem_forall₂ alike member
  obtain ⟨c, -, demand⟩ := exists_of_mem_forall₂ demanded.flip known
  have fits : ∀ v ∈ p.2.values, v.fits p.1.kind = true := by
    rw [same.criterion, same.kind]
    exact Condition.fits_of_demand? demand
  rw [Criterion.check_isMisfit fits failed] at misfit
  cases misfit

end FilterSpec

/-- A request whose filters are unambiguous keeps to the kinds of the fields that its conditions
name: no value is refused for its kind, and each is rendered and bound as one of the named field. -/
theorem parsed_filters_keep_kinds {c : Catalog} {text : String} {request : Request}
    {parsed : ParsedRequest} (read : Request.ofText text = .ok request)
    (h : c.parseRequest text = .ok parsed)
    (unambiguous : ∀ spec ∈ request.filters, spec.Unambiguous parsed.entity) (d : Dialect) :
    List.Forall₂ (FilterSpec.KeepsKinds parsed.entity) request.filters parsed.filters ∧
      (∀ error, Filter.appendAll (.new d) parsed.filters = .error error →
        error.isMisfit = false) ∧
      ∀ s, Filter.appendAll (.new d) parsed.filters = .ok s →
        s.fragments = (Clause.renders (d.markerAt 0 s.parameters)
          (parsed.filters.map (Filter.clause d))).filter (· ≠ "") ∧
        s.parameters.map Binding.content = parsed.filters.flatMap Filter.bound := by
  obtain ⟨request', read', -, built⟩ := Catalog.of_parseRequest_eq_ok h
  obtain rfl : request = request' := Except.ok.inj (read.symm.trans read')
  have each := (List.forall₂_and_left ..).mpr ⟨unambiguous, built⟩
  refine ⟨?_, ?_, ?_⟩
  · exact each.imp fun spec f ⟨unambiguous, built⟩ => spec.keepsKinds_of_build built unambiguous
  · intro error h
    obtain ⟨f, member, s, refused⟩ := Filter.exists_of_appendAll_eq_error h
    obtain ⟨spec, -, unambiguous, built⟩ := exists_of_mem_forall₂ each.flip member
    exact spec.isMisfit_of_build built unambiguous refused
  · intro s h
    obtain ⟨added, gained⟩ := Filter.appendAll_added rfl h
    rw [gained.parameters]
    exact ⟨gained.fragments, gained.contents⟩

/-- A condition on one of two names of a column, when the filter also has the other name. -/
theorem parsed_filters_keep_kinds_synonym :
    ∃ (c : Catalog) (text : String) (request : Request) (parsed : ParsedRequest) (s : Statement),
      Request.ofText text = .ok request ∧ c.parseRequest text = .ok parsed ∧
      List.Forall₂ (FilterSpec.KeepsKinds parsed.entity) request.filters parsed.filters ∧
      Filter.appendAll (.new .sqlite) parsed.filters = .ok s ∧
      s.parameters.map Binding.content = parsed.filters.flatMap Filter.bound ∧
      s.parameters = [⟨"p1", .text, .text "A7"⟩] := by
  let e : Entity := ⟨"Widget", "widgets", [⟨"Code", "code", .text⟩, ⟨"Label", "code", .text⟩]⟩
  have run : ((Catalog.mk [e]).parseRequest
      "[\"Widget\", [[\"field\", \"all\", [\"Code\"], [[\"Label\", \"=\", \"A7\"]]]]]" >>=
        fun parsed => Filter.appendAll (.new .sqlite) parsed.filters) =
      .ok {
        dialect := some .sqlite, fragments := ["\"code\" = ?1"],
        parameters := [⟨"p1", .text, .text "A7"⟩],
        registry := ⟨"p", 1, ["p1"]⟩ } := by
    decide +kernel
  obtain ⟨parsed, accepted, appended⟩ := bind_eq_ok.mp run
  obtain ⟨request, read, known, -⟩ := Catalog.of_parseRequest_eq_ok accepted
  have same : parsed.entity = e := List.mem_singleton.mp (List.mem_of_find?_eq_some known)
  have kinds : ∀ spec ∈ request.filters, spec.Unambiguous parsed.entity := by
    rw [same]
    exact fun spec _ => FilterSpec.unambiguous_of_fields (by decide) spec
  obtain ⟨keeps, -, bound⟩ := parsed_filters_keep_kinds read accepted kinds .sqlite
  exact ⟨_, _, request, parsed, _, read, accepted, keeps, appended, (bound _ appended).2, rfl⟩

/-- Fields of one column and different kinds.  A text that was read for the one is refused for the
other, and a whole number that was read for the one is bound as a decimal for the other. -/
theorem synonym_of_other_kind_confused :
    ∃ c, Catalog.ofText "[[[\"Widget\", \"widgets\",
          [[\"Code\", \"code\", \"integer\"], [\"Label\", \"code\", \"text\"],
          [\"Price\", \"price\", \"decimal\"], [\"Units\", \"price\", \"integer\"]]]]]" = .ok c ∧
      (c.parseRequest "[\"Widget\", [[\"field\", \"all\", [\"Code\"],
        [[\"Label\", \"=\", \"A7\"]]]]]").isOk = true ∧
      c.compileRequest "[\"Widget\", [[\"field\", \"all\", [\"Code\"],
        [[\"Label\", \"=\", \"A7\"]]]]]" .sqlite "p" =
        .error (.unsupportedCriterion "Code" (.misfit "text" .integer)) ∧
      c.compileRequest "[\"Widget\", [[\"field\", \"all\", [\"Price\"],
        [[\"Units\", \"=\", 5]]]]]" .sqlite "p" =
        .ok ⟨"SELECT * FROM \"widgets\" WHERE \"price\" = ?1", [⟨"p1", .decimal, .integer 5⟩]⟩ := by
  refine ⟨⟨[⟨"Widget", "widgets", [⟨"Code", "code", .integer⟩, ⟨"Label", "code", .text⟩,
    ⟨"Price", "price", .decimal⟩, ⟨"Units", "price", .integer⟩]⟩]⟩, ?_, ?_, ?_, ?_⟩
  · decide +kernel
  · decide +kernel
  · decide +kernel
  · decide +kernel

end EntityFilter
