import EntityFilter.Proofs.LikePattern
import EntityFilter.Request.Compile

/-!
How SQL Server reads the patterns of LIKE: there, characters between brackets are a set, which takes
one character.  A pattern made from a text asks for just that text when the text has no opening
bracket, and for something else when it has one.
-/

namespace EntityFilter

namespace LikePattern

/-- A character of a pattern, and whether an escape makes it stand for itself. -/
structure Mark where
  char : Char
  escaped : Bool
  deriving DecidableEq

/-- A character that no escape precedes. -/
def Mark.plain (c : Char) : Mark := ⟨c, false⟩

def Mark.item (m : Mark) : Item := if m.escaped then .literal m.char else .ofChar m.char

/-- The characters of a pattern, without the escapes.  There are none for a pattern that ends in an
escape with nothing behind it. -/
def marks? : List Char → Option (List Mark)
  | [] => some []
  | '\\' :: [] => none
  | '\\' :: c :: cs => (marks? cs).map (⟨c, true⟩ :: ·)
  | c :: cs => (marks? cs).map (.plain c :: ·)

/-- Whether a character is among the members of a set.  A hyphen between two members stands for all
characters from the one to the other. -/
def isMember (c : Char) : List Mark → Bool
  | low :: ⟨'-', false⟩ :: high :: rest => (low.char ≤ c && c ≤ high.char) || isMember c rest
  | m :: rest => m.char == c || isMember c rest
  | [] => false

/-- Whether a set allows a character.  A set that begins with a caret allows all but its members. -/
def setAllows (set : List Mark) (c : Char) : Bool :=
  match set with
  | ⟨'^', false⟩ :: rest => !isMember c rest
  | members => isMember c members

/-- The items of a pattern, where `set` has the members so far of a set that has been opened, the
last one first.  There are none when a set is not closed. -/
def readSets? : Option (List Mark) → List Mark → Option (List Item)
  | none, [] => some []
  | some _, [] => none
  | none, m :: ms =>
    if m = .plain '[' then readSets? (some []) ms else (readSets? none ms).map (m.item :: ·)
  | some set, m :: ms =>
    if m = .plain ']' then (readSets? none ms).map (.one (setAllows set.reverse) :: ·)
    else readSets? (some (m :: set)) ms

/-- Whether a text matches a pattern that may have sets in it.  None matches one that is not well
formed. -/
def matchesWithSets (pattern text : String) : Bool :=
  ((marks? pattern.toList).bind (readSets? none)).any (takes · text.toList)

theorem matchesWithSets_iff {pattern text : String} {ms : List Mark}
    (h : marks? pattern.toList = some ms) :
    matchesWithSets pattern text = true ↔
      ∃ items, readSets? none ms = some items ∧ takes items text.toList = true := by
  rw [matchesWithSets, h, Option.bind_some, Option.any_eq_true]

/-- A character as it is marked in the pattern of a text. -/
def Mark.ofText (c : Char) : Mark := ⟨c, Like.isSpecial c⟩

theorem marks?_ordinary {c : Char} (h : c ≠ '\\') (cs : List Char) :
    marks? (c :: cs) = (marks? cs).map (.plain c :: ·) := by
  rw [marks?]
  · intro escape
    exact absurd escape h
  · intro _ _ escape
    exact absurd escape h

theorem marks?_escape (s rest : List Char) :
    marks? (s.flatMap Like.escapeChar ++ rest) = (marks? rest).map (s.map Mark.ofText ++ ·) := by
  induction s with
  | nil => simp
  | cons c s ih =>
    rw [List.flatMap_cons, List.append_assoc, Like.escapeChar, List.map_cons, Mark.ofText]
    by_cases special : Like.isSpecial c = true
    · rw [if_pos special, List.cons_append, List.cons_append, List.nil_append, marks?, ih,
        Option.map_map, special]
      rfl
    · have ordinary : c ≠ '\\' := by
        rintro rfl
        exact special rfl
      rw [if_neg special, List.singleton_append, marks?_ordinary ordinary, ih, Option.map_map,
        Bool.eq_false_iff.mpr special]
      rfl

theorem Mark.item_ofText (c : Char) : (Mark.ofText c).item = .literal c := by
  by_cases special : Like.isSpecial c = true
  · rw [Mark.item, Mark.ofText, if_pos special]
  · have plain := special
    simp only [Like.isSpecial, Bool.or_eq_true, beq_iff_eq, not_or] at plain
    rw [Mark.item, Mark.ofText, if_neg special, Item.ofChar, if_neg plain.1.1, if_neg plain.1.2]

/-- Without an opening bracket a text is read as its own characters. -/
theorem readSets?_ofText {s : List Char} (h : '[' ∉ s) (ms : List Mark) :
    readSets? none (s.map Mark.ofText ++ ms) =
      (readSets? none ms).map (s.map Item.literal ++ ·) := by
  induction s with
  | nil => simp
  | cons c s ih =>
    obtain ⟨first, others⟩ := List.ne_and_not_mem_of_not_mem_cons h
    have closed : Mark.ofText c ≠ .plain '[' := fun same => first (congrArg Mark.char same).symm
    rw [List.map_cons, List.cons_append, readSets?, if_neg closed, ih others, Mark.item_ofText,
      Option.map_map]
    rfl

/-- How many characters items take when they take as few as they can. -/
def least : List Item → Nat
  | [] => 0
  | .anySequence :: items => least items
  | .one _ :: items => least items + 1

/-- How many characters of a pattern are no wildcards for any sequence. -/
def solid : List Mark → Nat
  | [] => 0
  | m :: ms => if m = .plain '%' then solid ms else solid ms + 1

theorem solid_le_cons (m : Mark) (ms : List Mark) : solid ms ≤ solid (m :: ms) := by
  rw [solid]
  split <;> omega

theorem solid_cons {m : Mark} (h : m ≠ .plain '%') (ms : List Mark) :
    solid (m :: ms) = solid ms + 1 := by
  rw [solid, if_neg h]

theorem least_item_cons (m : Mark) (items : List Item) :
    least (m.item :: items) = if m = .plain '%' then least items else least items + 1 := by
  obtain ⟨c, escaped⟩ := m
  cases escaped with
  | true =>
    have escaped : (⟨c, true⟩ : Mark) ≠ .plain '%' := by
      intro same
      cases congrArg Mark.escaped same
    rw [if_neg escaped]
    rfl
  | false =>
    by_cases any : c = '%'
    · subst any
      rfl
    · have other : (⟨c, false⟩ : Mark) ≠ .plain '%' := fun same => any (congrArg Mark.char same)
      have item : (⟨c, false⟩ : Mark).item =
          if c = '_' then .one fun _ => true else .literal c := by
        rw [Mark.item, if_neg Bool.false_ne_true, Item.ofChar, if_neg any]
      rw [if_neg other, item]
      split <;> rfl

/-- Each item for one character is read from characters of its own: from a set, or from one. -/
theorem least_le_solid {set : Option (List Mark)} {ms : List Mark} {items : List Item}
    (h : readSets? set ms = some items) : least items ≤ solid ms := by
  induction ms generalizing set items with
  | nil =>
    cases set with
    | none =>
      cases h
      exact Nat.le_refl 0
    | some set => cases h
  | cons m ms ih =>
    cases set with
    | none =>
      rw [readSets?] at h
      split at h
      · exact (ih h).trans (solid_le_cons m ms)
      · obtain ⟨rest, read, rfl⟩ := Option.map_eq_some_iff.mp h
        have fewer := ih read
        rw [least_item_cons, solid]
        split <;> omega
    | some set =>
      rw [readSets?] at h
      split at h
      · rename_i closing
        obtain ⟨rest, read, rfl⟩ := Option.map_eq_some_iff.mp h
        have fewer := ih read
        rw [least, closing, solid_cons (by decide)]
        omega
      · exact (ih h).trans (solid_le_cons m ms)

/-- A set is read from two brackets at least, so with one there are fewer items than characters. -/
theorem least_lt_solid {ms : List Mark} {items : List Item} (h : readSets? none ms = some items)
    (opened : .plain '[' ∈ ms) : least items < solid ms := by
  induction ms generalizing items with
  | nil => cases opened
  | cons m ms ih =>
    rw [readSets?] at h
    split at h
    · rename_i opening
      have fewer := least_le_solid h
      rw [opening, solid_cons (by decide)]
      omega
    · rename_i other
      obtain ⟨rest, read, rfl⟩ := Option.map_eq_some_iff.mp h
      have fewer := ih read ((List.mem_cons.mp opened).resolve_left (Ne.symm other))
      rw [least_item_cons, solid]
      split <;> omega

/-- What items take, they also take with as few characters as they can. -/
theorem exists_least {items : List Item} {text : List Char} (h : takes items text = true) :
    ∃ short, takes items short = true ∧ short.length = least items := by
  induction items generalizing text with
  | nil => exact ⟨[], rfl, rfl⟩
  | cons item items ih =>
    cases item with
    | anySequence =>
      obtain ⟨_, rest, -, taken⟩ := takes_anySequence_iff.mp h
      obtain ⟨short, taken, length⟩ := ih taken
      exact ⟨short, takes_anySequence_iff.mpr ⟨[], short, rfl, taken⟩, length⟩
    | one allows =>
      cases text with
      | nil => cases h
      | cons c text =>
        rw [takes, Bool.and_eq_true] at h
        obtain ⟨short, taken, length⟩ := ih h.2
        refine ⟨c :: short, ?_, ?_⟩
        · rw [takes, h.1, taken, Bool.true_and]
        · rw [List.length_cons, length, least]

end LikePattern

namespace Like

open LikePattern

/-- The text that a comparison is about. -/
def sought : Like → String
  | contains s => s
  | startsWith s => s
  | endsWith s => s

/-- The characters of the pattern of a comparison. -/
def marks : Like → List Mark
  | contains s => .plain '%' :: (s.toList.map .ofText ++ [.plain '%'])
  | startsWith s => s.toList.map .ofText ++ [.plain '%']
  | endsWith s => .plain '%' :: s.toList.map .ofText

theorem marks?_pattern (p : Like) : marks? p.pattern.toList = some p.marks := by
  cases p with
  | contains s =>
    have pattern : (contains s).pattern.toList =
        '%' :: (s.toList.flatMap escapeChar ++ ['%']) := by
      simp [pattern, escape]
    rw [pattern, marks?_ordinary (by decide), marks?_escape]
    rfl
  | startsWith s =>
    have pattern : (startsWith s).pattern.toList = s.toList.flatMap escapeChar ++ ['%'] := by
      simp [pattern, escape]
    rw [pattern, marks?_escape]
    rfl
  | endsWith s =>
    have pattern : (endsWith s).pattern.toList =
        '%' :: (s.toList.flatMap escapeChar ++ []) := by
      simp [pattern, escape]
    rw [pattern, marks?_ordinary (by decide), marks?_escape]
    simp [marks?, marks]

theorem solid_marks (p : Like) : solid p.marks = p.sought.toList.length := by
  have ofText (c : Char) : Mark.ofText c ≠ .plain '%' := by
    intro same
    obtain ⟨rfl, special⟩ := Mark.mk.inj same
    cases special
  have text (s : List Char) (ms : List Mark) :
      solid (s.map Mark.ofText ++ ms) = s.length + solid ms := by
    induction s with
    | nil => simp
    | cons c s ih =>
      rw [List.map_cons, List.cons_append, solid_cons (ofText c), ih, List.length_cons]
      omega
  cases p with
  | contains s => exact text s.toList [.plain '%']
  | startsWith s => exact text s.toList [.plain '%']
  | endsWith s =>
    rw [marks, ← List.append_nil (s.toList.map Mark.ofText)]
    exact text s.toList []

/-- Without an opening bracket in it, a pattern is read as it is without sets. -/
theorem readSets?_marks {p : Like} (h : '[' ∉ p.sought.toList) :
    readSets? none p.marks = some p.items := by
  have text := readSets?_ofText h
  cases p with
  | contains s =>
    rw [marks, readSets?, if_neg (by decide)]
    exact congrArg _ (text [.plain '%'])
  | startsWith s => exact text [.plain '%']
  | endsWith s =>
    rw [marks, readSets?, if_neg (by decide), ← List.append_nil (s.toList.map Mark.ofText)]
    refine (congrArg _ (text [])).trans ?_
    simp [readSets?, items, sought, Mark.item, Item.ofChar, Mark.plain]

theorem mem_marks {p : Like} (h : '[' ∈ p.sought.toList) : .plain '[' ∈ p.marks := by
  have member : Mark.plain '[' ∈ p.sought.toList.map Mark.ofText :=
    List.mem_map.mpr ⟨'[', h, by decide⟩
  cases p with
  | contains s => exact List.mem_cons_of_mem _ (List.mem_append_left _ member)
  | startsWith s => exact List.mem_append_left _ member
  | endsWith s => exact List.mem_cons_of_mem _ member

theorem holds_sought (p : Like) : p.Holds p.sought := by
  cases p with
  | contains s => exact List.infix_rfl
  | startsWith s => exact List.prefix_rfl
  | endsWith s => exact List.suffix_rfl

theorem length_le_of_holds {p : Like} {text : String} (h : p.Holds text) :
    p.sought.toList.length ≤ text.toList.length := by
  cases p with
  | contains s => exact List.IsInfix.length_le h
  | startsWith s => exact List.IsPrefix.length_le h
  | endsWith s => exact List.IsSuffix.length_le h

end Like

/-- SQL Server reads the pattern of a comparison as asking for just what the comparison asks for, if
and only if the text in it has no opening bracket. -/
theorem matches_literally_with_sets_iff (f : Field) (p : Like) :
    ∃ pattern,
      ((Criterion.like p).clause .mssql f).bindings = [(f.kind, .text pattern)] ∧
      ((∀ text, LikePattern.matchesWithSets pattern text = true ↔ p.Holds text) ↔
        '[' ∉ p.sought.toList) := by
  refine ⟨p.pattern, rfl, fun literal opened => ?_, fun closed text => ?_⟩
  · -- The text itself is taken, hence so is a text that is too short to have it inside.
    obtain ⟨items, read, taken⟩ :=
      (LikePattern.matchesWithSets_iff p.marks?_pattern).mp ((literal _).mpr p.holds_sought)
    obtain ⟨short, taken, length⟩ := LikePattern.exists_least taken
    have found : p.Holds (String.ofList short) := by
      rw [← literal, LikePattern.matchesWithSets_iff p.marks?_pattern, String.toList_ofList]
      exact ⟨items, read, taken⟩
    have fits := Like.length_le_of_holds found
    have fewer := LikePattern.least_lt_solid read (Like.mem_marks opened)
    rw [String.toList_ofList, length] at fits
    rw [p.solid_marks] at fewer
    omega
  · rw [LikePattern.matchesWithSets_iff p.marks?_pattern, Like.readSets?_marks closed]
    constructor
    · rintro ⟨items, ⟨⟩, taken⟩
      exact (p.takes_items_iff text).mp taken
    · intro holds
      exact ⟨p.items, rfl, (p.takes_items_iff text).mpr holds⟩

/-- A text in brackets.  The pattern for texts that have it inside is matched by a single letter,
and the pattern for texts that start with it is not matched by the text itself. -/
theorem brackets_read_as_set :
    Catalog.compileRequest ⟨[⟨"Widget", "widgets", [⟨"Name", "name", .text⟩]⟩]⟩
        "[\"Widget\", [[\"field\", \"all\", [], [[\"Name\", \"contains\", \"[a]\"]]]]]" .mssql "p" =
      .ok ⟨"SELECT * FROM [widgets] WHERE [name] LIKE @p1 ESCAPE '\\'",
        [⟨"p1", .text, .text "%[a]%"⟩]⟩ ∧
      LikePattern.matchesWithSets "%[a]%" "a" = true ∧ ¬ (Like.contains "[a]").Holds "a" ∧
      LikePattern.matchesWithSets (Like.startsWith "[a]").pattern "[a]" = false ∧
      (Like.startsWith "[a]").Holds "[a]" := by
  refine ⟨?_, ?_, ?_, ?_, ?_⟩
  · decide +kernel
  · decide
  · show ¬ "[a]".toList <:+: "a".toList
    decide
  · decide
  · exact Like.holds_sought (.startsWith "[a]")

end EntityFilter
