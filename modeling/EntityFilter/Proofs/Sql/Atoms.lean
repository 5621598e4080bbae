import EntityFilter.Proofs.Sql.Reading

/-!
The texts of atoms in each dialect, around quoted names and markers of any content.
-/

namespace EntityFilter.Sql

variable {d : Dialect}

theorem OperandTokens.atom {ts : List Token} {a : Atom String}
    (reads : ∀ outer frame,
      Reader.run d ⟨outer, frame, .before⟩ ts = some ⟨outer, frame, .within ts⟩)
    (h : Atom.ofTokens? d ts = some a) : OperandTokens d ts (.atom a) :=
  fun outer frame => ⟨.within ts, reads outer frame, by rw [Place.operand?, h, Option.map_some]⟩

/-- A text that ends in a bare token. -/
theorem lexes_of_bare {text : String} (us : List Token) (k : Bare) (read : List Char)
    (h : advance d .between text.toList = some (us, .bare k read)) :
    Lexes d text (us ++ [k.token (String.ofList read)]) :=
  ⟨us, .bare k read, _, h, rfl, rfl, fun _ hc => continue?_delimiter_bare k read hc⟩

theorem closed_blank : Closed d " " [] := by
  cases d <;> rfl

theorem closed_comma : Closed d ", " [.comma] := by
  cases d <;> rfl

theorem closed_parenthesis : Closed d ")" [.closing] := by
  cases d <;> rfl

theorem delimited_comma : Delimited ", " := ⟨',', by simp [delimiters], [' '], rfl⟩

theorem delimited_parenthesis : Delimited ")" := ⟨')', by simp [delimiters], [], rfl⟩

def memberTokens : List String → List Token
  | [] => []
  | [m] => [.marker m]
  | m :: ms => .marker m :: .comma :: memberTokens ms

theorem connective?_memberTokens (ms : List String) :
    ∀ t ∈ memberTokens ms, t.connective? = none := by
  fun_induction memberTokens ms with
  | case1 => simp
  | case2 m => simp [Token.connective?]
  | case3 m ms _ ih => simpa [Token.connective?] using ih

theorem lexes_memberTokens {m : String} {ms : List String}
    (h : ∀ n ∈ m :: ms, Lexes d n [.marker n]) :
    Lexes d (", ".intercalate (m :: ms)) (memberTokens (m :: ms)) := by
  induction ms generalizing m with
  | nil => simpa [memberTokens] using h m List.mem_cons_self
  | cons n ms ih =>
    have first := (h m List.mem_cons_self).append_closed delimited_comma closed_comma
    rw [String.intercalate_cons_cons]
    exact first.append_lexes (ih fun k hk => h k (List.mem_cons_of_mem _ hk))

/-- A list of markers is not read before its parenthesis. -/
theorem members?_memberTokens (m : String) (ms : List String) :
    members? (memberTokens (m :: ms)) = none ∧
      members? (memberTokens (m :: ms) ++ [.closing]) = some (m :: ms) := by
  induction ms generalizing m with
  | nil => exact ⟨rfl, rfl⟩
  | cons n ms ih =>
    have split : memberTokens (m :: n :: ms) = .marker m :: .comma :: memberTokens (n :: ms) := rfl
    rw [split]
    exact ⟨by simp [members?, (ih n).1], by simp [members?, (ih n).2]⟩

section

variable (column : String) {m low high : String}

theorem ofTokens?_compare (symbol m : String) :
    Atom.ofTokens? d [.name column, .symbol symbol, .marker m] =
      (Relation.ofSymbol? symbol).map fun r => .compare column r m := rfl

theorem ofTokens?_compareTruth (symbol w : String) :
    Atom.ofTokens? d [.name column, .symbol symbol, .word w] =
      (Relation.ofSymbol? symbol).bind fun r =>
        (truth? w).map fun b => .compareTruth column r b := rfl

theorem ofTokens?_among (ts : List Token) :
    Atom.ofTokens? d (.name column :: .word "IN" :: .opening :: ts) =
      (members? ts).map (.among column) := rfl

theorem operand_isNull :
    Operand d (d.identifier column ++ " IS NULL") (.atom (.isNull column)) := by
  have test : Lexes d " IS NULL" [.word "IS", .word "NULL"] :=
    lexes_of_bare [.word "IS"] .word "NULL".toList (by cases d <;> rfl)
  exact ⟨_, (lexes_identifier d column).append_lexes (delimited_blank rfl) test,
    .atom (fun _ _ => rfl) rfl⟩

theorem operand_isNotNull :
    Operand d (d.identifier column ++ " IS NOT NULL") (.atom (.isNotNull column)) := by
  have test : Lexes d " IS NOT NULL" [.word "IS", .word "NOT", .word "NULL"] :=
    lexes_of_bare [.word "IS", .word "NOT"] .word "NULL".toList (by cases d <;> rfl)
  exact ⟨_, (lexes_identifier d column).append_lexes (delimited_blank rfl) test,
    .atom (fun _ _ => rfl) rfl⟩

/-- A column and the symbol of a relation. -/
theorem closed_relation {symbol : String} (h : Lexes d symbol [.symbol symbol]) :
    Closed d (d.identifier column ++ " " ++ symbol ++ " ") [.name column, .symbol symbol] :=
  (((lexes_identifier d column).append_closed (delimited_blank rfl) closed_blank).append_lexes
    h).append_closed (delimited_blank rfl) closed_blank

theorem operand_compare {symbol : String} {r : Relation} (h : Lexes d symbol [.symbol symbol])
    (hr : Relation.ofSymbol? symbol = some r) (hm : Lexes d m [.marker m]) :
    Operand d (d.identifier column ++ " " ++ symbol ++ " " ++ m) (.atom (.compare column r m)) :=
  ⟨_, (closed_relation column h).append_lexes hm, .atom (fun _ _ => rfl)
    ((ofTokens?_compare column symbol m).trans (by rw [hr, Option.map_some]))⟩

theorem operand_compareTruth {symbol : String} {r : Relation}
    (h : Lexes d symbol [.symbol symbol]) (hr : Relation.ofSymbol? symbol = some r) (b : Bool) :
    Operand d (d.identifier column ++ " " ++ symbol ++ " " ++ d.boolLiteral b)
      (.atom (.compareTruth column r b)) := by
  have word : Lexes d (d.boolLiteral b) [.word (d.boolLiteral b)] := by
    cases d <;> cases b <;> exact lexes_of_bare [] .word _ rfl
  have truth : truth? (d.boolLiteral b) = some b := by
    cases d <;> cases b <;> rfl
  refine ⟨_, (closed_relation column h).append_lexes word, .atom (fun _ _ => ?_) ?_⟩
  · cases d <;> cases b <;> rfl
  · refine (ofTokens?_compareTruth column symbol _).trans ?_
    rw [hr, truth, Option.bind_some, Option.map_some]

theorem operand_between (hl : Lexes d low [.marker low]) (hh : Lexes d high [.marker high]) :
    Operand d (d.identifier column ++ " BETWEEN " ++ low ++ " AND " ++ high)
      (.atom (.between column low high)) := by
  have between : Closed d " BETWEEN " [.word "BETWEEN"] := by
    cases d <;> rfl
  have and : Closed d " AND " [.word "AND"] := by
    cases d <;> rfl
  have first := ((lexes_identifier d column).append_closed (delimited_blank rfl)
    between).append_lexes hl
  exact ⟨_, (first.append_closed (delimited_blank rfl) and).append_lexes hh,
    .atom (fun _ _ => rfl) rfl⟩

/-- The tokens of a list are collected up to its parenthesis, which closes no other. -/
theorem run_among (m : String) (ms : List String) (outer : List Frame) (frame : Frame) :
    Reader.run d ⟨outer, frame, .before⟩
        (.name column :: .word "IN" :: .opening :: memberTokens (m :: ms) ++ [.closing]) =
      some ⟨outer, frame, .within
        (.name column :: .word "IN" :: .opening :: memberTokens (m :: ms) ++ [.closing])⟩ := by
  have inside : ∀ t ∈ .word "IN" :: .opening :: memberTokens (m :: ms),
      t.connective? = none := by
    simp only [List.mem_cons, forall_eq_or_imp]
    exact ⟨rfl, rfl, connective?_memberTokens _⟩
  have collected : Reader.run d ⟨outer, frame, .before⟩
      (.name column :: .word "IN" :: .opening :: memberTokens (m :: ms)) =
      some ⟨outer, frame, .within
        (.name column :: .word "IN" :: .opening :: memberTokens (m :: ms))⟩ :=
    Reader.run_within outer frame [.name column] inside
  have unfinished : Atom.ofTokens? d
      (.name column :: .word "IN" :: .opening :: memberTokens (m :: ms)) = none := by
    rw [ofTokens?_among, (members?_memberTokens m ms).1, Option.map_none]
  -- The parenthesis is a connective, but before it stands no operand.
  rw [Reader.run_append, collected, Option.bind_some, Reader.run_cons, Reader.step,
    Place.operand?, unfinished]
  rfl

theorem operand_among {ms : List String} (h : ∀ n ∈ m :: ms, Lexes d n [.marker n]) :
    Operand d (d.identifier column ++ " IN (" ++ ", ".intercalate (m :: ms) ++ ")")
      (.atom (.among column (m :: ms))) := by
  have among : Closed d " IN (" [.word "IN", .opening] := by
    cases d <;> rfl
  have opened := (lexes_identifier d column).append_closed (delimited_blank rfl) among
  refine ⟨_, ((opened.append_lexes (lexes_memberTokens h)).append_closed delimited_parenthesis
    closed_parenthesis).lexes, .atom (run_among column m ms) ?_⟩
  refine (ofTokens?_among column (memberTokens (m :: ms) ++ [.closing])).trans ?_
  rw [(members?_memberTokens m ms).2, Option.map_some]

theorem operand_like (hm : Lexes d m [.marker m]) :
    Operand d (d.identifier column ++ " LIKE " ++ m ++ d.likeEscape)
      (.atom (.like column m (some "\\"))) := by
  have like : Closed d " LIKE " [.word "LIKE"] := by
    cases d <;> rfl
  have matched := ((lexes_identifier d column).append_closed (delimited_blank rfl)
    like).append_lexes hm
  by_cases hd : d = .clickhouse
  · subst hd
    refine ⟨[.name column, .word "LIKE", .marker m], ?_, .atom (fun _ _ => rfl) rfl⟩
    simpa [Dialect.likeEscape] using matched
  · have escape : Lexes d d.likeEscape [.word "ESCAPE", .literal "\\"] := by
      refine ⟨[.word "ESCAPE"], .closed .literal ['\\'], [.literal "\\"], ?_, rfl, rfl,
        fun c hc => continue?_delimiter_closed .literal _ hc⟩
      cases d <;> first | rfl | exact absurd rfl hd
    have delimits : Delimited d.likeEscape := by
      cases d <;> first | exact delimited_blank rfl | exact absurd rfl hd
    exact ⟨_, matched.append_lexes delimits escape, .atom (fun _ _ => rfl) rfl⟩

theorem operand_freeText (hm : Lexes d m [.marker m]) :
    Operand d (d.freeText (d.identifier column) m) (.atom (.freeText column m)) := by
  by_cases hd : d = .postgres
  · subst hd
    have opens : Closed .postgres "to_tsvector(" [.word "to_tsvector", .opening] := rfl
    have matched : Closed .postgres ") @@ plainto_tsquery("
      [.closing, .symbol "@@", .word "plainto_tsquery", .opening] := rfl
    have named := (opens.append_lexes (lexes_identifier .postgres column)).append_closed
      ⟨')', by simp [delimiters], _, rfl⟩ matched
    exact ⟨_, ((named.append_lexes hm).append_closed delimited_parenthesis
      closed_parenthesis).lexes, .atom (fun _ _ => rfl) rfl⟩
  · have parts : d.freeTextParts = ("FREETEXT(", ", ", ")") := by
      cases d <;> first | rfl | exact absurd rfl hd
    have opens : Closed d "FREETEXT(" [.word "FREETEXT", .opening] := by
      cases d <;> rfl
    have named := (opens.append_lexes (lexes_identifier d column)).append_closed delimited_comma
      closed_comma
    rw [Dialect.freeText, parts]
    exact ⟨_, ((named.append_lexes hm).append_closed delimited_parenthesis
      closed_parenthesis).lexes, .atom (fun _ _ => rfl) rfl⟩

end

end EntityFilter.Sql
