import EntityFilter.CommandLine.Format
import EntityFilter.Proofs.DecimalText
import EntityFilter.Proofs.Kinds
import EntityFilter.Proofs.Typing

/-!
The script of a query: its text, and a comment for each parameter.  A comment ends with its line,
and of all values only a text can end that line early.
-/

namespace EntityFilter

/-! Numbers, dates, instants and identifiers are written on one line. -/

theorem newline_not_mem_of_isDigit {ds : List Char} (h : ∀ c ∈ ds, c.isDigit = true) :
    '\n' ∉ ds := by
  intro member
  cases h _ member

theorem newline_not_mem_toDigits (n : Nat) : '\n' ∉ Nat.toDigits 10 n :=
  newline_not_mem_of_isDigit fun _ => Nat.isDigit_of_mem_toDigits (by decide) (by decide)

theorem newline_not_mem_numeral (i : Int) : '\n' ∉ (toString i).toList := by
  rw [Int.toString_eq_repr]
  cases i <;> simp [Int.repr, newline_not_mem_toDigits]

theorem newline_not_mem_padded (width n : Nat) : '\n' ∉ Text.padded width n := by
  simp [Text.padded, newline_not_mem_toDigits, List.mem_replicate]

namespace FloatLayout

theorem newline_not_mem_positional (f : FloatLayout) {digits : List Char} (h : '\n' ∉ digits)
    (p : Int) : '\n' ∉ f.positional digits p := by
  have first (n : Nat) : '\n' ∉ digits.take n := mt List.mem_of_mem_take h
  have others (n : Nat) : '\n' ∉ digits.drop n := mt List.mem_of_mem_drop h
  rw [positional]
  split
  · simp [h, List.mem_replicate]
  · dsimp only
    split
    · split <;> simp [h, List.mem_replicate]
    · simp [first, others]

theorem newline_not_mem_exponential {digits : List Char} (h : '\n' ∉ digits) (p : Int) :
    '\n' ∉ exponential digits p := by
  have first : '\n' ∉ digits.take 1 := mt List.mem_of_mem_take h
  have others : '\n' ∉ digits.drop 1 := mt List.mem_of_mem_drop h
  simp only [exponential, List.mem_append, List.mem_cons, not_or]
  refine ⟨⟨first, ?_⟩, by decide, ?_, newline_not_mem_toDigits _⟩
  · split
    · exact List.not_mem_nil
    · exact List.not_mem_cons_of_ne_of_not_mem (by decide) others
  · split <;> decide

theorem newline_not_mem_write (f : FloatLayout) (x : Binary64) : '\n' ∉ (f.write x).toList := by
  cases x with
  | nan => simp [write]
  | infinity s => cases s <;> simp [write]
  | finite s m e =>
    have body : '\n' ∉ (if m = 0 then f.positional ['0'] 0
        else f.layOut (ShortDecimal.ofFinite f.tie m e)) := by
      split
      · exact f.newline_not_mem_positional (by decide) 0
      · rw [layOut]
        split
        · exact f.newline_not_mem_positional (newline_not_mem_toDigits _) _
        · exact newline_not_mem_exponential (newline_not_mem_toDigits _) _
    rw [write, String.toList_ofList]
    split
    · exact List.not_mem_cons_of_ne_of_not_mem (by decide) body
    · exact body

end FloatLayout

theorem Json.Number.newline_not_mem_write (n : Json.Number) : '\n' ∉ n.write.toList := by
  cases n with
  | integer i => exact newline_not_mem_numeral i
  | float x => exact FloatLayout.scientific.newline_not_mem_write x

theorem Date.newline_not_mem_write (d : Date) : '\n' ∉ d.write := by
  have year : '\n' ∉ writeYear d.year := by
    rw [writeYear]
    split
    · exact newline_not_mem_padded _ _
    · split <;> simp [newline_not_mem_padded]
  simp [write, year, newline_not_mem_padded]

theorem Instant.newline_not_mem_write (t : Instant) {zone : List Char} (h : '\n' ∉ zone) :
    '\n' ∉ t.write zone := by
  have fraction (n : Nat) : '\n' ∉ writeFraction n := by
    rw [writeFraction]
    split
    · simp
    · split
      · simp [newline_not_mem_padded]
      · split <;> simp [newline_not_mem_padded]
  simp [write, h, fraction, t.date.newline_not_mem_write, newline_not_mem_padded]

namespace Guid

theorem newline_not_mem_writeGroups (ns : List Nat) {cs : List Char} (h : '\n' ∉ cs) :
    '\n' ∉ writeGroups ns cs := by
  induction ns generalizing cs with
  | nil => exact h
  | cons n ns ih =>
    cases ns with
    | nil => exact h
    | cons m ns =>
      have first : '\n' ∉ cs.take n := mt List.mem_of_mem_take h
      have others : '\n' ∉ cs.drop n := mt List.mem_of_mem_drop h
      simp [writeGroups, first, ih others]

theorem newline_not_mem_write (g : Guid) : '\n' ∉ g.write := by
  refine newline_not_mem_writeGroups groups fun member => ?_
  have hex := List.all_eq_true.mp g.all_hex _ member
  cases hex

end Guid

namespace Value

theorem newline_not_mem_literal {s : String} (h : isDecimalLiteral s = true) :
    '\n' ∉ s.toList := by
  intro member
  rcases of_mem_literal h member with sign | point | digit
  · cases sign
  · cases point
  · cases digit

/-- What is shown of a value has no line break, unless the value is a text. -/
def OneLine (v : Value) : Prop := v.asText? = none → '\n' ∉ v.display.toList

theorem oneLine_text (s : String) : (text s).OneLine := by
  intro notText
  cases notText

/-- A decimal is shown as it is spelled; all other values have a written form of their own. -/
theorem oneLine_of_not_decimal {v : Value} (h : ∀ s, v ≠ decimal s) : v.OneLine := by
  intro notText
  cases v with
  | null => decide
  | text s => exact oneLine_text s notText
  | integer i => exact newline_not_mem_numeral i.toInt
  | float x => exact FloatLayout.plain.newline_not_mem_write x
  | decimal s => exact absurd rfl (h s)
  | boolean b => cases b <;> decide
  | date d => exact String.toList_ofList.symm ▸ d.newline_not_mem_write
  | dateTime t => exact String.toList_ofList.symm ▸ t.newline_not_mem_write (by decide)
  | guid g => exact String.toList_ofList.symm ▸ g.newline_not_mem_write

/-- A decimal of a request is the text of a JSON number, or it has the spelling of a decimal. -/
theorem oneLine_of_ofScalar? {kind : Kind} {j : Json} {v : Value} (h : ofScalar? kind j = some v) :
    v.OneLine := by
  unfold ofScalar? at h
  split at h
  case h_7 n =>
    cases h
    exact fun _ => n.newline_not_mem_write
  case h_8 s =>
    split at h
    · rename_i literal
      cases h
      exact fun _ => newline_not_mem_literal literal
    · cases h
  case h_5 | h_10 | h_11 | h_12 =>
    obtain ⟨_, -, rfl⟩ := Option.map_eq_some_iff.mp h
    exact oneLine_of_not_decimal (by simp)
  all_goals
    cases h
    try exact oneLine_of_not_decimal (by simp)

theorem oneLine_of_ofJson {kind : Kind} {j : Json} {v : Value} (h : ofJson kind j = .ok v) :
    v.OneLine := by
  obtain ⟨-, rfl⟩ | ⟨-, -, spelled⟩ := ofJson_eq_ok.mp h
  · exact oneLine_of_not_decimal (by simp)
  · exact oneLine_of_ofScalar? spelled

end Value

/-- What a filter of a request binds is on one line, but for texts. -/
theorem FilterSpec.oneLine_of_build {e : Entity} {spec : FilterSpec} {f : Filter}
    (h : spec.build e = .ok f) : ∀ entry ∈ f.bound, entry.2.OneLine := by
  obtain ⟨cs, -, aligned⟩ := demands_of_build h
  have base : ∀ entry ∈ f.base.bound, entry.2.OneLine := by
    intro entry member
    obtain ⟨demand, demanded, member⟩ := List.mem_flatMap.mp member
    obtain ⟨v, bound, rfl⟩ := List.mem_map.mp member
    obtain ⟨c, -, -, named, states, -⟩ := exists_of_mem_forall₂ aligned demanded
    obtain own | ⟨s, rfl⟩ := Criterion.mem_bound bound
    · obtain ⟨item, spelled⟩ := (Condition.means_of_demand? states).spelled v own
      exact Value.oneLine_of_ofJson spelled
    · exact Value.oneLine_text _
  intro entry member
  cases f with
  | field f => exact base entry member
  | freeText f =>
    rcases List.mem_append.mp member with demanded | searched
    · exact base entry demanded
    · rw [List.mem_singleton.mp searched]
      exact Value.oneLine_text _

/-- The parameters of an accepted request: what is shown of them is on one line, but for texts, and
their names are made of the stem. -/
theorem Catalog.parameters_of_compileRequest {c : Catalog} {text : String} {d : Dialect}
    {stem : String} {q : Query} (h : c.compileRequest text d stem = .ok q) :
    ∀ b ∈ q.parameters, b.value.OneLine ∧ ∃ k : Nat, b.name = stem ++ toString k := by
  obtain ⟨parsed, s, accepted, appended, finished⟩ := of_compileRequest_eq_ok h
  obtain ⟨request, -, -, built⟩ := of_parseRequest_eq_ok accepted
  obtain ⟨added, gained⟩ := Filter.appendAll_added rfl appended
  have parameters : q.parameters = added :=
    (Statement.parameters_of_finishSelect finished).trans gained.parameters
  rw [parameters]
  intro b member
  have content : b.content ∈ parsed.filters.flatMap Filter.bound :=
    gained.contents ▸ List.mem_map_of_mem member
  obtain ⟨f, known, bound⟩ := List.mem_flatMap.mp content
  obtain ⟨spec, -, built⟩ := exists_of_mem_forall₂ built.flip known
  exact ⟨FilterSpec.oneLine_of_build built _ bound, gained.named b member⟩

/-- What is written of a parameter in its comment. -/
def Binding.remark (b : Binding) : String := s!"-- {b.name} ({b.kind}) = {b.value.display}"

/-- Neither the name nor the text of a parameter has a line break. -/
def Binding.Flat (b : Binding) : Prop :=
  '\n' ∉ b.name.toList ∧ ∀ s, b.value = .text s → '\n' ∉ s.toList

theorem Binding.comment_eq (b : Binding) : b.comment.toList = '\n' :: b.remark.toList := by
  simp [comment, remark, toString]

/-- A remark is on one line just when its parameter is flat: nothing else in it can have a line
break. -/
theorem Binding.flat_iff {b : Binding} (h : b.value.OneLine) : b.Flat ↔ '\n' ∉ b.remark.toList := by
  have kind : '\n' ∉ b.kind.name.toList := by
    cases b.kind <;> decide
  have remark : '\n' ∉ b.remark.toList ↔
      '\n' ∉ b.name.toList ∧ '\n' ∉ b.value.display.toList := by
    simp [Binding.remark, toString, kind]
  rw [remark, Flat]
  refine and_congr_right fun _ => ?_
  cases hv : b.value with
  | text s => simp [Value.display]
  | _ => simpa [hv] using h (by rw [hv]; rfl)

/-- Remarks, each behind a line break. -/
def remarks (bs : List Binding) : List Char := bs.flatMap fun b => '\n' :: b.remark.toList

/-- Behind the query of a script stand the remarks on its parameters. -/
theorem Query.script_eq (q : Query) :
    q.script = q.sql ++ ";" ++ String.ofList (remarks q.parameters) := by
  have comments (bs : List Binding) :
      (bs.map Binding.comment).foldr (· ++ ·) "" = String.ofList (remarks bs) := by
    induction bs with
    | nil => rfl
    | cons b bs ih =>
      refine String.toList_injective ?_
      rw [List.map_cons, List.foldr_cons, ih, String.toList_append, b.comment_eq]
      simp [remarks]
  rw [script, comments]

/-- Each remark has the line break before it, and those within. -/
theorem count_remarks_cons (b : Binding) (bs : List Binding) :
    (remarks (b :: bs)).count '\n' =
      1 + b.remark.toList.count '\n' + (remarks bs).count '\n' := by
  rw [remarks, List.flatMap_cons, List.count_append, List.count_cons_self, Nat.add_comm 1]
  rfl

theorem length_le_count_remarks (bs : List Binding) : bs.length ≤ (remarks bs).count '\n' := by
  induction bs with
  | nil => exact Nat.zero_le _
  | cons b bs ih =>
    rw [count_remarks_cons, List.length_cons]
    omega

/-- There are as many line breaks as remarks just when no remark has one. -/
theorem count_remarks_eq_iff (bs : List Binding) :
    (remarks bs).count '\n' = bs.length ↔ ∀ b ∈ bs, '\n' ∉ b.remark.toList := by
  induction bs with
  | nil => simp [remarks]
  | cons b bs ih =>
    have least := length_le_count_remarks bs
    have parts : 1 + b.remark.toList.count '\n' + (remarks bs).count '\n' = bs.length + 1 ↔
        b.remark.toList.count '\n' = 0 ∧ (remarks bs).count '\n' = bs.length := by
      omega
    rw [count_remarks_cons, List.length_cons, parts, List.count_eq_zero, ih, List.forall_mem_cons]

theorem remarks_eq_intercalate (start : List Char) (bs : List Binding) :
    start ++ remarks bs =
      ['\n'].intercalate (start :: bs.map fun b => b.remark.toList) := by
  induction bs generalizing start with
  | nil => simp [remarks, List.intercalate]
  | cons b bs ih =>
    have others := ih b.remark.toList
    rw [List.map_cons, List.intercalate_cons_cons, ← others]
    simp [remarks]

/-- The script of an accepted request is the query, a semicolon and the remarks on the parameters.
These have a line each, and there are no other lines, just when every parameter is flat: a line
break in a text ends the comment.  With a stem in one line, all names are in one line. -/
theorem script_lines_iff {c : Catalog} {text : String} {d : Dialect} {stem : String} {q : Query}
    (h : c.compileRequest text d stem = .ok q) :
    ∃ rest : List Char, q.render .sql = q.sql ++ ";" ++ String.ofList rest ∧
      (rest.count '\n' = q.parameters.length ↔ ∀ b ∈ q.parameters, b.Flat) ∧
      ((∀ b ∈ q.parameters, b.Flat) →
        rest.splitOn '\n' = [] :: q.parameters.map fun b => b.remark.toList) ∧
      ('\n' ∉ stem.toList → ∀ b ∈ q.parameters, '\n' ∉ b.name.toList) := by
  have shown := Catalog.parameters_of_compileRequest h
  have flat : (∀ b ∈ q.parameters, b.Flat) ↔ ∀ b ∈ q.parameters, '\n' ∉ b.remark.toList :=
    forall₂_congr fun b member => Binding.flat_iff (shown b member).1
  refine ⟨remarks q.parameters, q.script_eq, ?_, fun all => ?_, fun single b member => ?_⟩
  · rw [flat, count_remarks_eq_iff]
  · have lines := remarks_eq_intercalate [] q.parameters
    rw [List.nil_append] at lines
    rw [lines]
    refine List.splitOn_intercalate '\n' ?_ (List.cons_ne_nil _ _)
    rw [List.forall_mem_cons, List.forall_mem_map]
    exact ⟨List.not_mem_nil, flat.mp all⟩
  · obtain ⟨k, named⟩ := (shown b member).2
    have number : '\n' ∉ (toString k).toList := newline_not_mem_numeral k
    rw [named, String.toList_append, List.mem_append, not_or]
    exact ⟨single, number⟩

/-- Two comments, on a decimal and on the words of a search. -/
theorem script_lines_iff_search :
    ∃ (c : Catalog) (text : String) (q : Query) (rest : List Char),
      c.compileRequest text .mssql "p" = .ok q ∧
      q.render .sql = q.sql ++ ";" ++ String.ofList rest ∧
      rest.splitOn '\n' =
        ["", "-- p1 (decimal) = 12.50", "-- p2 (text) = gear"].map String.toList := by
  have accepted : Catalog.compileRequest
      ⟨[⟨"Widget", "widgets", [⟨"Price", "price", .decimal⟩, ⟨"Name", "name", .text⟩]⟩]⟩
      "[\"Widget\", [[\"free_text\", \"gear\", [\"Name\"], false, \"all\",
        [[\"Price\", \"<\", \"12.50\"]]]]]" .mssql "p" =
      .ok ⟨"SELECT * FROM [widgets] WHERE ([price] < @p1) AND (FREETEXT([name], @p2))",
        [⟨"p1", .decimal, .decimal "12.50"⟩, ⟨"p2", .text, .text "gear"⟩]⟩ := by
    decide +kernel
  obtain ⟨rest, printed, -, lines, -⟩ := script_lines_iff accepted
  refine ⟨_, _, _, rest, accepted, printed, (lines ?_).trans (by decide)⟩
  simp [Binding.Flat]

/-- A text with a line break.  What follows the break is on a line of its own, outside of the
comment. -/
theorem line_break_leaves_comment :
    ∃ q, Catalog.compileRequest ⟨[⟨"Widget", "widgets", [⟨"Name", "name", .text⟩]⟩]⟩
        "[\"Widget\", [[\"field\", \"all\", [], [[\"Name\", \"=\", \"a\\nDROP TABLE widgets\"]]]]]"
        .sqlite "p" = .ok q ∧
      q.parameters.length = 1 ∧
      q.render .sql = "SELECT * FROM \"widgets\" WHERE \"name\" = ?1;" ++
        "\n-- p1 (text) = a" ++ "\nDROP TABLE widgets" := by
  refine ⟨⟨"SELECT * FROM \"widgets\" WHERE \"name\" = ?1",
    [⟨"p1", .text, .text "a\nDROP TABLE widgets"⟩]⟩, ?_, rfl, ?_⟩
  · decide +kernel
  · decide +kernel

end EntityFilter
