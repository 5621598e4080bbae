import EntityFilter.Proofs.Append

/-!
How statements end: with a condition and with a query, whenever there is a dialect to write them in.
-/

namespace EntityFilter

/-- The condition that all of some texts hold.  A text that stands alone needs no parentheses. -/
def Dialect.conjoined (d : Dialect) : List String → String
  | [] => ""
  | [only] => only
  | texts => (" " ++ d.andKeyword ++ " ").intercalate (texts.map Statement.parenthesized)

namespace Statement

theorem whereClause_eq {d : Dialect} {s : Statement} (hd : s.dialect = some d) :
    s.whereClause = .ok (d.conjoined s.fragments) := by
  rw [whereClause, requireDialect_some hd]
  cases s.fragments with
  | nil => rfl
  | cons only rest => cases rest <;> rfl

theorem finishSelect_eq {d : Dialect} {s : Statement} (hd : s.dialect = some d) (e : Entity) :
    s.finishSelect e = .ok ⟨"SELECT * FROM " ++ d.identifier e.nativeName ++
      (if d.conjoined s.fragments = "" then "" else " WHERE " ++ d.conjoined s.fragments),
      s.parameters⟩ := by
  rw [finishSelect, select, requireDialect_some hd, whereClause_eq hd]
  by_cases empty : d.conjoined s.fragments = ""
  · simp [Bind.bind, Except.bind, Pure.pure, Except.pure, empty]
  · simp [Bind.bind, Except.bind, Pure.pure, Except.pure, empty, String.append_assoc]

theorem parameters_of_finishSelect {s : Statement} {e : Entity} {q : Query}
    (h : s.finishSelect e = .ok q) : q.parameters = s.parameters := by
  obtain ⟨text, -, ⟨⟩⟩ := bind_eq_ok.mp h
  rfl

end Statement
end EntityFilter
