import EntityFilter.Proofs.Marker

/-!
Dividing the text of a condition into tokens, the way a dialect does.  A quoted name or literal goes
on to the closing quote that is not written twice; any other token goes on as long as its characters
do.
-/

namespace EntityFilter.Sql

/-- A word of SQL text.  Names, markers and literals are kept apart from bare words. -/
inductive Token where
  | name (s : String)
  | marker (s : String)
  | literal (s : String)
  | word (s : String)
  | symbol (s : String)
  | opening
  | closing
  | comma
  deriving DecidableEq, Repr

/-- Tokens that end before the first character that is not theirs. -/
inductive Bare where
  | word
  | symbol
  | marker
  deriving DecidableEq, Repr

namespace Bare

/-- The characters that such a token consists of. -/
def allows : Bare → Char → Bool
  | word | marker => fun c => c.isAlphanum || c == '_'
  | symbol => fun c => c == '<' || c == '>' || c == '=' || c == '@'

def token : Bare → String → Token
  | word => .word
  | symbol => .symbol
  | marker => .marker

end Bare

inductive Quoted where
  | name
  | literal
  deriving DecidableEq, Repr

namespace Quoted

/-- The quote that ends such a token, unless it is written twice. -/
def closing (d : Dialect) : Quoted → Char
  | name => d.quoting.closing
  | literal => '\''

/-- Whether a backslash takes the next character as it is. -/
def escapes (d : Dialect) : Quoted → Bool
  | name => false
  | literal =>
    match d with
    | .mysql | .clickhouse => true
    | _ => false

/-- The token of what stands between the quotes. -/
def token : Quoted → String → Token
  | name => .name
  | literal => .literal

end Quoted

/-- The character that a dialect's markers begin with. -/
def markerSign : Dialect → Char
  | .sqlite => '?'
  | .postgres | .duckdb => '$'
  | .clickhouse => '\x7b'
  | .mssql | .mysql => '@'

/-- Where in a token a text is, and what has been read of the token. -/
inductive Mode where
  | between
  | bare (k : Bare) (read : List Char)
  | braced (read : List Char)
  | quoted (q : Quoted) (read : List Char)
  | escaped (q : Quoted) (read : List Char)
  | closed (q : Quoted) (read : List Char)
  deriving DecidableEq, Repr

def behind (ts : List Token) (r : List Token × Mode) : List Token × Mode := (ts ++ r.1, r.2)

def start (d : Dialect) (c : Char) : Option (List Token × Mode) :=
  if c = ' ' then some ([], .between)
  else if c = '(' then some ([.opening], .between)
  else if c = ')' then some ([.closing], .between)
  else if c = ',' then some ([.comma], .between)
  else if c = '\'' then some ([], .quoted .literal [])
  else if c = d.quoting.opening then some ([], .quoted .name [])
  else if c = markerSign d then
    if c = '\x7b' then some ([], .braced [c]) else some ([], .bare .marker [c])
  else if Bare.word.allows c then some ([], .bare .word [c])
  else if Bare.symbol.allows c then some ([], .bare .symbol [c])
  else none

namespace Mode

/-- The token that ends before the next character or the end of the text, if one does. -/
def token? : Mode → Option (List Token)
  | between => some []
  | bare k read => some [k.token (String.ofList read)]
  | closed q read => some [q.token (String.ofList read)]
  | braced _ | quoted .. | escaped .. => none

/-- What the next character is part of, if the token goes on. -/
def continue? (d : Dialect) (c : Char) : Mode → Option (List Token × Mode)
  | between => none
  | bare k read => if k.allows c then some ([], bare k (read ++ [c])) else none
  | braced read =>
    if c = '\x7d' then some ([.marker (String.ofList (read ++ [c]))], between)
    else some ([], braced (read ++ [c]))
  | quoted q read =>
    if c = q.closing d then some ([], closed q read)
    else if c = '\\' ∧ q.escapes d then some ([], escaped q read)
    else some ([], quoted q (read ++ [c]))
  | escaped q read => some ([], quoted q (read ++ [c]))
  | closed q read => if c = q.closing d then some ([], quoted q (read ++ [c])) else none

def next (d : Dialect) (m : Mode) (c : Char) : Option (List Token × Mode) :=
  match m.continue? d c with
  | some r => some r
  | none => m.token?.bind fun ts => (start d c).map (behind ts)

end Mode

/-- Reads characters: the tokens that have ended, and where the text is then. -/
def advance (d : Dialect) (m : Mode) : List Char → Option (List Token × Mode)
  | [] => some ([], m)
  | c :: cs => (m.next d c).bind fun r => (advance d r.2 cs).map (behind r.1)

def lex (d : Dialect) (text : String) : Option (List Token) := do
  let (ts, m) ← advance d .between text.toList
  return ts ++ (← m.token?)

variable {d : Dialect}

theorem behind_nil : behind [] = id := rfl

theorem behind_append (ts us : List Token) : behind (ts ++ us) = behind ts ∘ behind us := by
  funext r
  simp [behind]

theorem advance_append (m : Mode) (cs rest : List Char) :
    advance d m (cs ++ rest) =
      (advance d m cs).bind fun r => (advance d r.2 rest).map (behind r.1) := by
  induction cs generalizing m with
  | nil => simp [advance, behind_nil]
  | cons c cs ih =>
    simp only [List.cons_append, advance, ih, Option.bind_assoc, Option.map_bind]
    refine Option.bind_congr fun r _ => ?_
    cases advance d r.2 cs with
    | none => rfl
    | some r' => simp [behind, behind_append]

/-- A character that goes on with the token ends none. -/
theorem advance_continue {m m' : Mode} {c : Char} (h : m.continue? d c = some ([], m'))
    (cs : List Char) : advance d m (c :: cs) = advance d m' cs := by
  rw [advance, Mode.next, h]
  simp [behind_nil]

/-- A character that does not go on with the token begins the next one. -/
theorem advance_end {m : Mode} {c : Char} {ts : List Token} (h : m.continue? d c = none)
    (ended : m.token? = some ts) (cs : List Char) :
    advance d m (c :: cs) = (advance d .between (c :: cs)).map (behind ts) := by
  have fresh : Mode.next d .between c = start d c := by
    simp [Mode.next, Mode.continue?, Mode.token?, behind_nil]
  rw [advance, advance, fresh, Mode.next, h]
  simp only [ended, Option.bind_some, Option.map_bind, Option.bind_map]
  refine Option.bind_congr fun r _ => ?_
  simp [behind, behind_append]

/-- The characters that end a bare token and may stand behind a quoted one. -/
def delimiters : List Char := [' ', ')', ',']

theorem continue?_delimiter_bare (k : Bare) (read : List Char) {c : Char} (h : c ∈ delimiters) :
    (Mode.bare k read).continue? d c = none := by
  have refused : k.allows c = false := by
    simp only [delimiters, List.mem_cons, List.not_mem_nil, or_false] at h
    obtain rfl | rfl | rfl := h <;> cases k <;> rfl
  simp [Mode.continue?, refused]

theorem continue?_delimiter_closed (q : Quoted) (read : List Char) {c : Char}
    (h : c ∈ delimiters) : (Mode.closed q read).continue? d c = none := by
  have other : c ≠ q.closing d := by
    simp only [delimiters, List.mem_cons, List.not_mem_nil, or_false] at h
    obtain rfl | rfl | rfl := h <;> cases q <;> cases d <;> decide
  simp [Mode.continue?, other]

/-- Every token of the text ends in it. -/
def Closed (d : Dialect) (text : String) (ts : List Token) : Prop :=
  advance d .between text.toList = some (ts, .between)

/-- The tokens of a text of which the last one ends with it, if a delimiter follows. -/
def Lexes (d : Dialect) (text : String) (ts : List Token) : Prop :=
  ∃ us m vs, advance d .between text.toList = some (us, m) ∧ m.token? = some vs ∧ us ++ vs = ts ∧
    ∀ c ∈ delimiters, m.continue? d c = none

theorem Closed.lexes {text : String} {ts : List Token} (h : Closed d text ts) : Lexes d text ts :=
  ⟨ts, .between, [], h, rfl, List.append_nil ts, fun _ _ => rfl⟩

theorem Lexes.lex {text : String} {ts : List Token} (h : Lexes d text ts) :
    lex d text = some ts := by
  obtain ⟨us, m, vs, read, ended, rfl, -⟩ := h
  simp [Sql.lex, read, ended]

/-- A text before which every token ends. -/
def Delimited (text : String) : Prop := ∃ c ∈ delimiters, ∃ cs, text.toList = c :: cs

section Append

variable {a b : String} {ts us : List Token}

theorem Closed.advance_append (h : Closed d a ts) :
    advance d .between (a ++ b).toList = (advance d .between b.toList).map (behind ts) := by
  rw [String.toList_append, Sql.advance_append, h, Option.bind_some]

theorem Lexes.advance_append (h : Lexes d a ts) (hb : Delimited b) :
    advance d .between (a ++ b).toList = (advance d .between b.toList).map (behind ts) := by
  obtain ⟨us, m, vs, read, ended, rfl, ends⟩ := h
  obtain ⟨c, hc, cs, hb⟩ := hb
  rw [String.toList_append, Sql.advance_append, read, Option.bind_some, hb,
    advance_end (ends c hc) ended, Option.map_map, behind_append]

theorem Closed.append_lexes (ha : Closed d a ts) (hb : Lexes d b us) :
    Lexes d (a ++ b) (ts ++ us) := by
  obtain ⟨us, m, vs, read, ended, rfl, ends⟩ := hb
  refine ⟨ts ++ us, m, vs, ?_, ended, List.append_assoc .., ends⟩
  rw [ha.advance_append, read, Option.map_some, behind]

theorem Lexes.append_closed (ha : Lexes d a ts) (h : Delimited b) (hb : Closed d b us) :
    Closed d (a ++ b) (ts ++ us) := by
  rw [Closed, ha.advance_append h, hb, Option.map_some, behind]

theorem Lexes.append_lexes (ha : Lexes d a ts) (h : Delimited b) (hb : Lexes d b us) :
    Lexes d (a ++ b) (ts ++ us) := by
  obtain ⟨us, m, vs, read, ended, rfl, ends⟩ := hb
  refine ⟨ts ++ us, m, vs, ?_, ended, List.append_assoc .., ends⟩
  rw [ha.advance_append h, read, Option.map_some, behind]

end Append

/-- A bare token goes on as long as its characters do. -/
theorem advance_bare (k : Bare) (read : List Char) {cs : List Char}
    (h : ∀ c ∈ cs, k.allows c = true) :
    advance d (.bare k read) cs = some ([], .bare k (read ++ cs)) := by
  induction cs generalizing read with
  | nil => rw [advance, List.append_nil]
  | cons c cs ih =>
    have goes : (Mode.bare k read).continue? d c = some ([], .bare k (read ++ [c])) := by
      simp [Mode.continue?, h c List.mem_cons_self]
    rw [advance_continue goes, ih _ fun c hc => h c (List.mem_cons_of_mem _ hc),
      List.append_assoc, List.singleton_append]

theorem advance_braced (read : List Char) {cs : List Char} (h : '\x7d' ∉ cs)
    (rest : List Char) :
    advance d (.braced read) (cs ++ rest) = advance d (.braced (read ++ cs)) rest := by
  induction cs generalizing read with
  | nil => rw [List.nil_append, List.append_nil]
  | cons c cs ih =>
    rw [List.mem_cons, not_or] at h
    have goes : (Mode.braced read).continue? d c = some ([], .braced (read ++ [c])) := by
      simp [Mode.continue?, Ne.symm h.1]
    rw [List.cons_append, advance_continue goes, ih _ h.2, List.append_assoc,
      List.singleton_append]

/-- A closing quote that is written twice is part of the name. -/
theorem advance_name (read name rest : List Char) :
    advance d (.quoted .name read) (name.flatMap d.quoting.writeChar ++ rest) =
      advance d (.quoted .name (read ++ name)) rest := by
  induction name generalizing read with
  | nil => rw [List.flatMap_nil, List.nil_append, List.append_nil]
  | cons c name ih =>
    rw [List.flatMap_cons, List.append_assoc]
    by_cases hc : c = d.quoting.closing
    -- The first of two quotes seems to end the name, and the second takes that back.
    · have closes : (Mode.quoted .name read).continue? d c = some ([], .closed .name read) := by
        simp [Mode.continue?, Quoted.closing, hc]
      have reopens : (Mode.closed .name read).continue? d c =
          some ([], .quoted .name (read ++ [c])) := by
        simp [Mode.continue?, Quoted.closing, hc]
      rw [Quoting.writeChar, if_pos hc, List.cons_append, advance_continue closes,
        List.cons_append, advance_continue reopens, List.nil_append, ih, List.append_assoc,
        List.singleton_append]
    · have goes : (Mode.quoted .name read).continue? d c =
          some ([], .quoted .name (read ++ [c])) := by
        simp [Mode.continue?, Quoted.closing, Quoted.escapes, hc]
      rw [Quoting.writeChar, if_neg hc, List.cons_append, advance_continue goes, List.nil_append,
        ih, List.append_assoc, List.singleton_append]

/-- A quoted name is one token, whatever the name. -/
theorem lexes_identifier (d : Dialect) (name : String) :
    Lexes d (d.identifier name) [.name name] := by
  have opens : (Mode.between).next d d.quoting.opening = some ([], .quoted .name []) := by
    cases d <;> rfl
  have closes : (Mode.quoted .name name.toList).continue? d d.quoting.closing =
      some ([], .closed .name name.toList) := by
    simp [Mode.continue?, Quoted.closing]
  refine ⟨[], .closed .name name.toList, [.name name], ?_, ?_, rfl,
    fun c hc => continue?_delimiter_closed .name _ hc⟩
  · rw [Dialect.identifier, Quoting.write, String.toList_ofList, Quoting.writeChars,
      List.cons_append, advance, opens, Option.bind_some, advance_name, List.nil_append,
      advance_continue closes]
    rfl
  · rw [Mode.token?, String.ofList_toList]
    rfl

def Plain (s : String) : Prop := ∀ c ∈ s.toList, Bare.marker.allows c = true

theorem Plain.append {a b : String} (ha : Plain a) (hb : Plain b) : Plain (a ++ b) := by
  intro c hc
  rw [String.toList_append, List.mem_append] at hc
  exact hc.elim (ha c) (hb c)

theorem plain_numeral (n : Nat) : Plain (toString n) := by
  intro c hc
  rw [Nat.toString_eq_repr, Nat.toList_repr] at hc
  have digit := Nat.isDigit_of_mem_toDigits (by decide) (by decide) hc
  simp [Bare.allows, Char.isAlphanum, digit]

/-- A marker of a sign and bare characters is one token. -/
theorem lexes_bare_marker {sign : Char}
    (begins : Mode.between.next d sign = some ([], .bare .marker [sign])) {s : String}
    (h : Plain s) :
    Lexes d (String.ofList (sign :: s.toList)) [.marker (String.ofList (sign :: s.toList))] := by
  refine ⟨[], .bare .marker (sign :: s.toList), _, ?_, rfl, rfl,
    fun c hc => continue?_delimiter_bare .marker _ hc⟩
  rw [String.toList_ofList, advance, begins, Option.bind_some, advance_bare .marker _ h]
  rfl

theorem closed_braced_marker {cs : List Char} (h : '\x7d' ∉ cs) :
    Closed .clickhouse (String.ofList ('\x7b' :: cs ++ ['\x7d']))
      [.marker (String.ofList ('\x7b' :: cs ++ ['\x7d']))] := by
  have begins : Mode.between.next .clickhouse '\x7b' = some ([], .braced ['\x7b']) := rfl
  rw [Closed, String.toList_ofList, List.cons_append, advance, begins, Option.bind_some,
    advance_braced _ h]
  simp [advance, Mode.next, Mode.continue?, behind]

/-- Outside ClickHouse a marker is a sign and a number or a name. -/
theorem marker_eq_sign (h : d ≠ .clickhouse) (p : Parameter) :
    d.marker p = String.ofList (markerSign d ::
      (if d.numbersMarkers then toString p.ordinal else p.name).toList) := by
  apply String.toList_injective
  rw [String.toList_ofList]
  cases d with
  | clickhouse => exact absurd rfl h
  | sqlite | postgres | duckdb =>
    simp only [Dialect.marker, String.toList_append]
    rfl
  | mssql | mysql =>
    simp only [Dialect.marker, String.toList_append]
    rfl

theorem clickhouse_marker_eq (p : Parameter) :
    Dialect.clickhouse.marker p = String.ofList
      ('\x7b' :: (p.name ++ ":" ++ Dialect.markerType p.kind).toList ++ ['\x7d']) := by
  apply String.toList_injective
  simp [Dialect.marker]

theorem brace_not_mem_markerType (k : Kind) : '\x7d' ∉ (Dialect.markerType k).toList := by
  cases k <;> decide

/-- A marker is one token when the name of its parameter is made of letters, digits and
underscores. -/
theorem lexes_marker (d : Dialect) {p : Parameter}
    (h : Plain p.name) : Lexes d (d.marker p) [.marker (d.marker p)] := by
  by_cases hd : d = .clickhouse
  · subst hd
    have inside : '\x7d' ∉ (p.name ++ ":" ++ Dialect.markerType p.kind).toList := by
      have named : '\x7d' ∉ p.name.toList := fun member => absurd (h _ member) (by decide)
      simp [named, brace_not_mem_markerType]
    rw [clickhouse_marker_eq]
    exact (closed_braced_marker inside).lexes
  · have begins : Mode.between.next d (markerSign d) =
        some ([], .bare .marker [markerSign d]) := by
      cases d <;> first | rfl | exact absurd rfl hd
    have body : Plain (if d.numbersMarkers then toString p.ordinal else p.name) := by
      split
      · exact plain_numeral p.ordinal
      · exact h
    rw [marker_eq_sign hd]
    exact lexes_bare_marker begins body

end EntityFilter.Sql
