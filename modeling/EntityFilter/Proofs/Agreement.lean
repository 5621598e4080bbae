import EntityFilter.Proofs.Finish
import EntityFilter.Proofs.Run
import EntityFilter.Request.Compile

/-!
One request in several dialects and under several stems.  What is refused is refused in all of them,
and what is accepted has the same parameters in all of them, which are named by their numbers.
-/

namespace EntityFilter

/-- The names that a stem makes of the numbers from one to `n`. -/
def generated (stem : String) (n : Nat) : List String :=
  (List.range' 1 n).map fun k => stem ++ toString k

theorem generated_succ (stem : String) (n : Nat) :
    generated stem (n + 1) = generated stem n ++ [stem ++ toString (n + 1)] := by
  rw [generated, List.range'_1_concat, List.map_append, List.map_singleton, Nat.add_comm 1 n]
  rfl

namespace Registry

/-- The registry that has given out the first `n` names of a stem, and nothing else. -/
def counted (stem : String) (n : Nat) : Registry := ⟨stem, n, (generated stem n).reverse⟩

theorem firstFree_of_free {r : Registry} {k : Nat} (h : r.nameAt k ∉ r.issued) (fuel : Nat) :
    r.firstFree fuel k = k := by
  cases fuel with
  | zero => rfl
  | succ fuel => rw [firstFree, if_neg (mt isIssued_iff.mp h)]

theorem allocate_counted (stem : String) (n : Nat) :
    (counted stem n).allocate = (stem ++ toString (n + 1), counted stem (n + 1)) := by
  have free : (counted stem n).nameAt (n + 1) ∉ (counted stem n).issued := by
    intro taken
    obtain ⟨k, known, same⟩ := List.mem_map.mp (List.mem_reverse.mp taken)
    have number : k = n + 1 := (counted stem n).nameAt_injective same
    rw [List.mem_range'_1] at known
    omega
  have next : (counted stem n).next = n + 1 := firstFree_of_free free _
  rw [allocate, next]
  simp only [counted, generated_succ, List.reverse_append]
  rfl

end Registry

namespace Statement

/-- The parameters of a statement are named by their numbers, and its registry knows no other
names. -/
structure Counted (stem : String) (s : Statement) : Prop where
  registry : s.registry = .counted stem s.parameters.length
  names : s.parameters.map Binding.name = generated stem s.parameters.length

theorem Counted.new (d : Dialect) (stem : String) : ((new d).setStem stem).Counted stem :=
  ⟨rfl, rfl⟩

end Statement

/-- The statement of an emission with the pending bindings among its parameters. -/
def Emission.ahead (e : Emission) : Statement :=
  { e.statement with parameters := e.statement.parameters ++ e.pending }

namespace Emission

variable {stem : String} {e : Emission}

/-- The next value takes the next number. -/
theorem ahead_bind (h : e.ahead.Counted stem) (kind : Kind) (value : Value) :
    (e.bind kind value).2.ahead.Counted stem := by
  have next : e.statement.registry.allocate =
      (stem ++ toString (e.ahead.parameters.length + 1),
        .counted stem (e.ahead.parameters.length + 1)) := by
    rw [← Registry.allocate_counted, ← h.registry]
    rfl
  have parameters : (e.bind kind value).2.ahead.parameters =
      e.ahead.parameters ++ [⟨stem ++ toString (e.ahead.parameters.length + 1), kind, value⟩] := by
    simp [ahead, bind, next]
  constructor
  · rw [parameters, List.length_append, List.length_singleton]
    simp [ahead, bind, next]
  · rw [parameters, List.map_append, List.length_append, List.length_singleton, generated_succ,
      h.names]
    rfl

theorem ahead_bindAll (h : e.ahead.Counted stem) (values : List (Kind × Value)) :
    (e.bindAll values).2.ahead.Counted stem := by
  induction values generalizing e with
  | nil => exact h
  | cons v values ih => exact ih (ahead_bind h v.1 v.2)

end Emission

variable {stem : String} {s t : Statement}

theorem Statement.Counted.commitClause {d : Dialect} (h : s.Counted stem) (hd : s.dialect = some d)
    (c : Clause) : ((s.emission d).commitClause c).Counted stem := by
  have begun : (s.emission d).ahead = s := by
    rw [Emission.ahead, Statement.emission, List.append_nil]
  have bound : ((s.emission d).bindAll c.bindings).2.ahead.Counted stem :=
    Emission.ahead_bindAll (begun.symm ▸ h) c.bindings
  have on := (Statement.emission_on hd).bindAll c.bindings
  simp only [Emission.commitClause, Emission.commit]
  split
  -- Without a text, the names go back.
  · exact on.abandon.symm ▸ h
  · exact ⟨bound.registry, bound.names⟩

namespace Filter

theorem append_counted (f : Filter) (h : s.Counted stem) : (f.append s).statement.Counted stem := by
  obtain ⟨e, refused⟩ | ⟨-, -, d, hd, appended⟩ := f.append_cases s
  · rw [refused]
    exact h
  · rw [appended]
    exact h.commitClause hd _

theorem appendAll_counted {fs : List Filter} (h : s.Counted stem) (ht : appendAll s fs = .ok t) :
    t.Counted stem := by
  induction fs generalizing s with
  | nil =>
    cases ht
    exact h
  | cons f fs ih => exact ih (append_counted f h) (appendAll_cons_eq_ok.mp ht).2

theorem append_dialect {f : Filter} {d : Dialect} (hd : s.dialect = some d)
    (accepted : (f.append s).result = .ok ()) : (f.append s).statement.dialect = some d := by
  obtain ⟨-, _, -, -, ⟨-, -, -, unchanged⟩ | ⟨-, -, gains⟩⟩ := append_gains hd accepted
  · rw [unchanged, hd]
  · rw [gains.dialect, hd]

/-- Whether a filter can be appended depends neither on the dialect nor on what the statement has
already. -/
theorem append_result_congr (f : Filter) {d d' : Dialect} (hs : s.dialect = some d)
    (ht : t.dialect = some d') : (f.append s).result = (f.append t).result := by
  rw [result_append, result_append, hs, ht]
  rfl

theorem appendAll_result_congr (fs : List Filter) {d d' : Dialect} (hs : s.dialect = some d)
    (ht : t.dialect = some d') :
    (appendAll s fs).map (fun _ => ()) = (appendAll t fs).map fun _ => () := by
  induction fs generalizing s t with
  | nil => rfl
  | cons f fs ih =>
    have same := append_result_congr f hs ht
    rw [appendAll, appendAll, ← same]
    cases accepted : (f.append s).result with
    | error e => rfl
    | ok => exact ih (append_dialect hs accepted) (append_dialect ht (same ▸ accepted))

end Filter

namespace Dialect

variable {d : Dialect}

/-- Numbered markers do not tell the names of parameters. -/
theorem marker_congr (numbers : d.numbersMarkers = true) {p q : Parameter}
    (h : p.ordinal = q.ordinal) : d.marker p = d.marker q := by
  cases d with
  | sqlite | postgres | duckdb => simp only [marker, h]
  | clickhouse | mssql | mysql => cases numbers

theorem markers_congr (numbers : d.numbersMarkers = true) (n : Nat) {as bs : List Binding}
    (h : as.length = bs.length) : d.markers n as = d.markers n bs := by
  induction as generalizing n bs with
  | nil =>
    rw [List.length_nil, eq_comm, List.length_eq_zero_iff] at h
    rw [h]
  | cons a as ih =>
    cases bs with
    | nil => cases h
    | cons b bs =>
      have first : d.marker ⟨a.name, n + 1, a.kind⟩ = d.marker ⟨b.name, n + 1, b.kind⟩ :=
        marker_congr numbers rfl
      have others := ih (n + 1) (Nat.succ.inj h)
      simp only [markers] at others ⊢
      simp only [numbered, List.map_cons, first, others]

end Dialect

/-- Where markers are numbered, filters say the same under every stem. -/
theorem Filter.appendAll_fragments_congr {d : Dialect} (numbers : d.numbersMarkers = true)
    {fs : List Filter} {stem stem' : String}
    (hs : appendAll ((Statement.new d).setStem stem) fs = .ok s)
    (ht : appendAll ((Statement.new d).setStem stem') fs = .ok t) : s.fragments = t.fragments := by
  obtain ⟨added, gained⟩ := appendAll_added rfl hs
  obtain ⟨added', gained'⟩ := appendAll_added rfl ht
  have width : added.length = added'.length := by
    rw [← List.length_map (f := Binding.content), gained.contents, ← gained'.contents,
      List.length_map]
  have markers : d.markerAt 0 added = d.markerAt 0 added' := by
    funext k
    rw [Dialect.markerAt, Dialect.markerAt, Dialect.markers_congr numbers 0 width]
  rw [gained.fragments, gained'.fragments]
  exact congrArg (fun p => (Clause.renders p (fs.map (clause d))).filter (· ≠ "")) markers

/-- A request that is accepted makes the same filters in every dialect and under every stem, and
these can be appended to all new statements or to none. -/
theorem Catalog.compileRequest_cases (c : Catalog) (text : String) (d d' : Dialect)
    (stem stem' : String) :
    (∃ e, c.compileRequest text d stem = .error e ∧ c.compileRequest text d' stem' = .error e) ∨
      ∃ (e : Entity) (fs : List Filter) (s t : Statement),
        Filter.appendAll ((Statement.new d).setStem stem) fs = .ok s ∧
        Filter.appendAll ((Statement.new d').setStem stem') fs = .ok t ∧
        c.compileRequest text d stem = s.finishSelect e ∧
        c.compileRequest text d' stem' = t.finishSelect e := by
  cases accepted : c.parseRequest text with
  | error e =>
    have refused (d : Dialect) (stem : String) : c.compileRequest text d stem = .error e := by
      rw [compileRequest, accepted]
      rfl
    exact .inl ⟨e, refused d stem, refused d' stem'⟩
  | ok parsed =>
    have compiled (d : Dialect) (stem : String) : c.compileRequest text d stem =
        Filter.appendAll ((Statement.new d).setStem stem) parsed.filters >>=
          fun s => s.finishSelect parsed.entity := by
      rw [compileRequest, accepted]
      rfl
    have same := Filter.appendAll_result_congr parsed.filters
      (s := (Statement.new d).setStem stem) (t := (Statement.new d').setStem stem') rfl rfl
    rw [compiled d stem, compiled d' stem']
    cases hs : Filter.appendAll ((Statement.new d).setStem stem) parsed.filters with
    | error e =>
      rw [hs, eq_comm] at same
      exact .inl ⟨e, rfl, by rw [map_eq_error.mp same]; rfl⟩
    | ok s =>
      rw [hs, eq_comm] at same
      obtain ⟨t, ht, -⟩ := map_eq_ok.mp same
      exact .inr ⟨parsed.entity, parsed.filters, s, t, hs, ht, rfl, by rw [ht]; rfl⟩

/-- One request in all dialects and under all stems.  Either it is refused with the same error, or
it becomes queries with the same values under the same kinds, named by their numbers from one on.
Where markers are numbered, the stem does not even show in the text. -/
theorem requests_compile_alike (c : Catalog) (text : String) :
    (∀ (d d' : Dialect) (stem stem' : String),
      (∃ e, c.compileRequest text d stem = .error e ∧
        c.compileRequest text d' stem' = .error e) ∨
      ∃ q r, c.compileRequest text d stem = .ok q ∧ c.compileRequest text d' stem' = .ok r ∧
        q.parameters.length = r.parameters.length ∧
        q.parameters.map Binding.content = r.parameters.map Binding.content ∧
        q.parameters.map Binding.name = generated stem q.parameters.length ∧
        r.parameters.map Binding.name = generated stem' r.parameters.length) ∧
    ∀ d ∈ [Dialect.sqlite, .postgres, .duckdb], ∀ stem stem' : String,
      (c.compileRequest text d stem).map Query.sql =
        (c.compileRequest text d stem').map Query.sql := by
  constructor
  · intro d d' stem stem'
    refine (c.compileRequest_cases text d d' stem stem').imp_right ?_
    rintro ⟨entity, fs, s, t, hs, ht, left, right⟩
    obtain ⟨added, gained⟩ := Filter.appendAll_added rfl hs
    obtain ⟨added', gained'⟩ := Filter.appendAll_added rfl ht
    have counted := Filter.appendAll_counted (.new d stem) hs
    have counted' := Filter.appendAll_counted (.new d' stem') ht
    have contents : s.parameters.map Binding.content = t.parameters.map Binding.content := by
      rw [gained.parameters, gained'.parameters]
      exact gained.contents.trans gained'.contents.symm
    have width : s.parameters.length = t.parameters.length := by
      rw [← List.length_map (f := Binding.content), contents, List.length_map]
    exact ⟨_, _, left.trans (Statement.finishSelect_eq gained.dialect _),
      right.trans (Statement.finishSelect_eq gained'.dialect _), width, contents,
      counted.names, counted'.names⟩
  · intro d numbers stem stem'
    have numbers : d.numbersMarkers = true := by
      simp only [List.mem_cons, List.not_mem_nil, or_false] at numbers
      rcases numbers with rfl | rfl | rfl <;> rfl
    obtain ⟨e, left, right⟩ | ⟨entity, fs, s, t, hs, ht, left, right⟩ :=
      c.compileRequest_cases text d d stem stem'
    · rw [left, right]
    · obtain ⟨_, gained⟩ := Filter.appendAll_added rfl hs
      obtain ⟨_, gained'⟩ := Filter.appendAll_added rfl ht
      rw [left, right, Statement.finishSelect_eq gained.dialect,
        Statement.finishSelect_eq gained'.dialect,
        Filter.appendAll_fragments_congr numbers hs ht]
      rfl

/-- A search behind a truth value, which one dialect writes as a number and another as a word, and a
pattern.  Neither dialect binds the truth value. -/
theorem requests_compile_alike_mixed :
    ∃ (c : Catalog) (text : String) (q r : Query),
      c.compileRequest text .sqlite "p" = .ok q ∧ c.compileRequest text .clickhouse "arg" = .ok r ∧
      q.sql = "SELECT * FROM \"widgets\" WHERE (\"live\" = 1 AND " ++
        "\"name\" LIKE ?1 ESCAPE '\\') AND (FREETEXT(\"name\", ?2))" ∧
      q.parameters.map Binding.name = ["p1", "p2"] ∧
      r.parameters.map Binding.name = ["arg1", "arg2"] ∧
      q.parameters.map Binding.content = r.parameters.map Binding.content ∧
      (c.compileRequest text .postgres "p").map Query.sql =
        (c.compileRequest text .postgres "arg").map Query.sql := by
  let c : Catalog :=
    ⟨[⟨"Widget", "widgets", [⟨"Live", "live", .boolean⟩, ⟨"Name", "name", .text⟩]⟩]⟩
  let text := "[\"Widget\", [[\"free_text\", \"gear\", [\"Name\"], false, \"all\",
    [[\"Live\", \"=\", true], [\"Name\", \"starts_with\", \"a\"]]]]]"
  have accepted : c.compileRequest text .sqlite "p" =
      .ok ⟨"SELECT * FROM \"widgets\" WHERE (\"live\" = 1 AND " ++
        "\"name\" LIKE ?1 ESCAPE '\\') AND (FREETEXT(\"name\", ?2))",
        [⟨"p1", .text, .text "a%"⟩, ⟨"p2", .text, .text "gear"⟩]⟩ := by
    decide +kernel
  obtain ⟨alike, texts⟩ := requests_compile_alike c text
  obtain ⟨e, refused, -⟩ | ⟨q, r, left, right, width, contents, -, names⟩ :=
    alike .sqlite .clickhouse "p" "arg"
  · rw [accepted] at refused
    cases refused
  · obtain rfl := Except.ok.inj (accepted.symm.trans left)
    refine ⟨c, text, _, r, accepted, right, rfl, rfl, ?_, contents,
      texts .postgres (by simp) "p" "arg"⟩
    rw [names, ← width]
    rfl

end EntityFilter
