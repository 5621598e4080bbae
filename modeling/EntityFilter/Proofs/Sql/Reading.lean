import EntityFilter.Proofs.Sql.Reader

/-!
Which texts the reader takes for an operand, for operands joined by AND, and for a whole condition,
wherever in a condition they stand.
-/

namespace EntityFilter.Sql

variable {d : Dialect}

namespace Reader

theorem run_append (r : Reader) (ts us : List Token) :
    r.run d (ts ++ us) = (r.run d ts).bind fun r => r.run d us :=
  List.foldlM_append ..

theorem run_cons (r : Reader) (t : Token) (ts : List Token) :
    r.run d (t :: ts) = (r.step d t).bind fun r => r.run d ts := rfl

theorem step_connective {r : Reader} {t : Token} {k : Connective} {φ : Formula String}
    (ht : t.connective? = some k) (hφ : r.place.operand? d = some φ) :
    r.step d t = r.connect φ k := by
  rw [step, ht, hφ]

theorem step_shift {r : Reader} {t : Token} (ht : t.connective? = none) :
    r.step d t = r.shift t := by
  rw [step, ht]

/-- Tokens that are no connectives stay in the atom that has begun. -/
theorem run_within (outer : List Frame) (frame : Frame) (ts : List Token) {us : List Token}
    (h : ∀ u ∈ us, u.connective? = none) :
    run d ⟨outer, frame, .within ts⟩ us = some ⟨outer, frame, .within (ts ++ us)⟩ := by
  induction us generalizing ts with
  | nil =>
    rw [List.append_nil]
    rfl
  | cons u us ih =>
    rw [run_cons, step_shift (h u List.mem_cons_self), shift, Option.bind_some,
      ih _ fun v hv => h v (List.mem_cons_of_mem _ hv), List.append_assoc, List.singleton_append]

end Reader

section Tokens

variable {ts us : List Token} {φ ψ : Formula String}

/-- Tokens that are read as an operand. -/
def OperandTokens (d : Dialect) (ts : List Token) (φ : Formula String) : Prop :=
  ∀ outer frame, ∃ place, Reader.run d ⟨outer, frame, .before⟩ ts = some ⟨outer, frame, place⟩ ∧
    place.operand? d = some φ

/-- Tokens that are read as operands between ANDs. -/
def ConjunctionTokens (d : Dialect) (ts : List Token) (φ : Formula String) : Prop :=
  ∀ outer, ∃ frame place ψ, Reader.run d ⟨outer, {}, .before⟩ ts = some ⟨outer, frame, place⟩ ∧
    place.operand? d = some ψ ∧ frame.disjunct? = none ∧ frame.conjoin ψ = φ

/-- Tokens that are read as a condition. -/
def DisjunctionTokens (d : Dialect) (ts : List Token) (φ : Formula String) : Prop :=
  ∀ outer, ∃ frame place ψ, Reader.run d ⟨outer, {}, .before⟩ ts = some ⟨outer, frame, place⟩ ∧
    place.operand? d = some ψ ∧ frame.close ψ = φ

theorem OperandTokens.conjunction (h : OperandTokens d ts φ) : ConjunctionTokens d ts φ := by
  intro outer
  obtain ⟨place, reads, ends⟩ := h outer {}
  exact ⟨{}, place, φ, reads, ends, rfl, rfl⟩

theorem ConjunctionTokens.disjunction (h : ConjunctionTokens d ts φ) :
    DisjunctionTokens d ts φ := by
  intro outer
  obtain ⟨frame, place, ψ, reads, ends, first, conjoins⟩ := h outer
  exact ⟨frame, place, ψ, reads, ends, by rw [Frame.close, first, conjoins]⟩

theorem ConjunctionTokens.and (h : ConjunctionTokens d ts φ) (h' : OperandTokens d us ψ) :
    ConjunctionTokens d (ts ++ .word "AND" :: us) (.and φ ψ) := by
  intro outer
  obtain ⟨frame, place, χ, reads, ends, first, rfl⟩ := h outer
  obtain ⟨place', reads', ends'⟩ :=
    h' outer { frame with conjunct? := some (frame.conjoin χ) }
  refine ⟨{ frame with conjunct? := some (frame.conjoin χ) }, place', ψ, ?_, ends', first, rfl⟩
  rw [Reader.run_append, reads, Option.bind_some, Reader.run_cons,
    Reader.step_connective (k := .and) rfl ends, Reader.connect, Option.bind_some, reads']

/-- Behind OR a new alternative begins, whatever stands before. -/
theorem DisjunctionTokens.or (h : DisjunctionTokens d ts φ) (h' : OperandTokens d us ψ) :
    DisjunctionTokens d (ts ++ .word "OR" :: us) (.or φ ψ) := by
  intro outer
  obtain ⟨frame, place, χ, reads, ends, rfl⟩ := h outer
  obtain ⟨place', reads', ends'⟩ := h' outer { disjunct? := some (frame.close χ) }
  refine ⟨{ disjunct? := some (frame.close χ) }, place', ψ, ?_, ends', rfl⟩
  rw [Reader.run_append, reads, Option.bind_some, Reader.run_cons,
    Reader.step_connective (k := .or) rfl ends, Reader.connect, Option.bind_some, reads']

theorem DisjunctionTokens.parenthesized (h : DisjunctionTokens d ts φ) :
    OperandTokens d (.opening :: ts ++ [.closing]) φ := by
  intro outer frame
  obtain ⟨inner, place, ψ, reads, ends, rfl⟩ := h (frame :: outer)
  refine ⟨.behind (inner.close ψ), ?_, rfl⟩
  have opens : Reader.step d ⟨outer, frame, .before⟩ .opening =
      some ⟨frame :: outer, {}, .before⟩ := rfl
  rw [List.cons_append, Reader.run_cons, opens, Option.bind_some, Reader.run_append, reads,
    Option.bind_some, Reader.run_cons, Reader.step_connective (k := .closing) rfl ends]
  rfl

theorem DisjunctionTokens.parse (h : DisjunctionTokens d ts φ) :
    (Reader.run d {} ts).bind (Reader.finish? d) = some φ := by
  obtain ⟨frame, place, ψ, reads, ends, rfl⟩ := h []
  rw [reads, Option.bind_some, Reader.finish?, ends, Option.map_some]

end Tokens

section Text

variable {text other : String} {φ ψ : Formula String}

/-- A text that is read as an operand. -/
def Operand (d : Dialect) (text : String) (φ : Formula String) : Prop :=
  ∃ ts, Lexes d text ts ∧ OperandTokens d ts φ

/-- A text that is read as operands between ANDs. -/
def Conjunction (d : Dialect) (text : String) (φ : Formula String) : Prop :=
  ∃ ts, Lexes d text ts ∧ ConjunctionTokens d ts φ

/-- A text that is read as a condition. -/
def Disjunction (d : Dialect) (text : String) (φ : Formula String) : Prop :=
  ∃ ts, Lexes d text ts ∧ DisjunctionTokens d ts φ

theorem Operand.conjunction (h : Operand d text φ) : Conjunction d text φ := by
  obtain ⟨ts, lexed, reads⟩ := h
  exact ⟨ts, lexed, reads.conjunction⟩

theorem Conjunction.disjunction (h : Conjunction d text φ) : Disjunction d text φ := by
  obtain ⟨ts, lexed, reads⟩ := h
  exact ⟨ts, lexed, reads.disjunction⟩

theorem Operand.disjunction (h : Operand d text φ) : Disjunction d text φ :=
  h.conjunction.disjunction

theorem delimited_blank {cs : List Char} (h : text.toList = ' ' :: cs) : Delimited text :=
  ⟨' ', by simp [delimiters], cs, h⟩

theorem Conjunction.and (h : Conjunction d text φ) (h' : Operand d other ψ) :
    Conjunction d (text ++ " AND " ++ other) (.and φ ψ) := by
  obtain ⟨ts, lexed, reads⟩ := h
  obtain ⟨us, lexed', reads'⟩ := h'
  have keyword : Closed d " AND " [.word "AND"] := by
    cases d <;> rfl
  refine ⟨ts ++ .word "AND" :: us, ?_, reads.and reads'⟩
  simpa using (lexed.append_closed (delimited_blank rfl) keyword).append_lexes lexed'

theorem Disjunction.or (h : Disjunction d text φ) (h' : Operand d other ψ) :
    Disjunction d (text ++ " OR " ++ other) (.or φ ψ) := by
  obtain ⟨ts, lexed, reads⟩ := h
  obtain ⟨us, lexed', reads'⟩ := h'
  have keyword : Closed d " OR " [.word "OR"] := by
    cases d <;> rfl
  refine ⟨ts ++ .word "OR" :: us, ?_, reads.or reads'⟩
  simpa using (lexed.append_closed (delimited_blank rfl) keyword).append_lexes lexed'

theorem Disjunction.parenthesized (h : Disjunction d text φ) :
    Operand d ("(" ++ text ++ ")") φ := by
  obtain ⟨ts, lexed, reads⟩ := h
  have opens : Closed d "(" [.opening] := by
    cases d <;> rfl
  have closes : Closed d ")" [.closing] := by
    cases d <;> rfl
  have delimits : Delimited ")" := ⟨')', by simp [delimiters], [], rfl⟩
  exact ⟨_, ((opens.append_lexes lexed).append_closed delimits closes).lexes,
    reads.parenthesized⟩

theorem Disjunction.read (h : Disjunction d text φ) : read d text = some φ := by
  obtain ⟨ts, lexed, reads⟩ := h
  rw [Sql.read, lexed.lex]
  exact reads.parse

theorem Conjunction.all {texts : List String} {φs : List (Formula String)}
    (h : Conjunction d text φ) (hs : List.Forall₂ (Operand d) texts φs) :
    Conjunction d (" AND ".intercalate (text :: texts)) (φ.all φs) := by
  induction hs generalizing text φ with
  | nil => simpa [Formula.all] using h
  | @cons other ψ texts φs h' _ ih =>
    have joined := ih (h.and h')
    rw [String.intercalate_cons_append] at joined
    rwa [String.intercalate_cons_cons]

theorem Disjunction.any {texts : List String} {φs : List (Formula String)}
    (h : Disjunction d text φ) (hs : List.Forall₂ (Operand d) texts φs) :
    Disjunction d (" OR ".intercalate (text :: texts)) (φ.any φs) := by
  induction hs generalizing text φ with
  | nil => simpa [Formula.any] using h
  | @cons other ψ texts φs h' _ ih =>
    have joined := ih (h.or h')
    rw [String.intercalate_cons_append] at joined
    rwa [String.intercalate_cons_cons]

end Text

end EntityFilter.Sql
