import EntityFilter.Filter.Criterion
import Mathlib.Data.List.Infix

/-!
How a database reads the patterns of LIKE, and that a pattern made from a text asks for just that
text: whatever wildcards and escapes the text has, they stand for themselves.
-/

namespace EntityFilter

namespace LikePattern

/-- What a pattern takes from a text: any characters at all, or one character that it allows. -/
inductive Item where
  | anySequence
  | one (allows : Char → Bool)

def Item.literal (c : Char) : Item := one (· == c)

/-- The item of a character that no escape precedes. -/
def Item.ofChar (c : Char) : Item :=
  if c = '%' then anySequence else if c = '_' then one fun _ => true else literal c

/-- The items of a pattern in the standard reading.  There are none for a pattern that ends in an
escape with nothing behind it. -/
def read? : List Char → Option (List Item)
  | [] => some []
  | '\\' :: [] => none
  | '\\' :: c :: cs => (read? cs).map (.literal c :: ·)
  | c :: cs => (read? cs).map (.ofChar c :: ·)

/-- Whether items take up a text from its beginning to its end. -/
def takes : List Item → List Char → Bool
  | [], text => text.isEmpty
  | .anySequence :: items, text => text.tails.any (takes items)
  | .one _ :: _, [] => false
  | .one allows :: items, c :: text => allows c && takes items text

theorem read?_ordinary {c : Char} (h : c ≠ '\\') (cs : List Char) :
    read? (c :: cs) = (read? cs).map (.ofChar c :: ·) := by
  rw [read?]
  · intro escape
    exact absurd escape h
  · intro _ _ escape
    exact absurd escape h

/-- An escaped text is read as its own characters, whatever follows it. -/
theorem read?_escape (s rest : List Char) :
    read? (s.flatMap Like.escapeChar ++ rest) =
      (read? rest).map (s.map Item.literal ++ ·) := by
  induction s with
  | nil => simp
  | cons c s ih =>
    rw [List.flatMap_cons, List.append_assoc, Like.escapeChar]
    by_cases special : Like.isSpecial c = true
    · rw [if_pos special, List.cons_append, List.cons_append, List.nil_append, read?, ih,
        Option.map_map]
      rfl
    · simp only [Like.isSpecial, Bool.or_eq_true, beq_iff_eq, not_or] at special
      obtain ⟨⟨notAny, notOne⟩, notEscape⟩ := special
      have itself : Item.ofChar c = .literal c := by
        rw [Item.ofChar, if_neg notAny, if_neg notOne]
      rw [if_neg (by simp [Like.isSpecial, notAny, notOne, notEscape]), List.singleton_append,
        read?_ordinary notEscape, ih, itself, Option.map_map]
      rfl

theorem takes_nil_iff {text : List Char} : takes [] text = true ↔ text = [] := by
  rw [takes, List.isEmpty_iff]

theorem takes_anySequence_iff {items : List Item} {text : List Char} :
    takes (.anySequence :: items) text = true ↔
      ∃ skipped rest, text = skipped ++ rest ∧ takes items rest = true := by
  rw [takes, List.any_eq_true]
  constructor
  · rintro ⟨rest, suffix, taken⟩
    obtain ⟨skipped, rfl⟩ := (List.mem_tails _ _).mp suffix
    exact ⟨skipped, rest, rfl, taken⟩
  · rintro ⟨skipped, rest, rfl, taken⟩
    exact ⟨rest, (List.mem_tails _ _).mpr (List.suffix_append skipped rest), taken⟩

/-- The characters of a text take up that text, and leave what follows it to the next items. -/
theorem takes_literals_iff {s : List Char} {items : List Item} {text : List Char} :
    takes (s.map Item.literal ++ items) text = true ↔
      ∃ rest, text = s ++ rest ∧ takes items rest = true := by
  induction s generalizing text with
  | nil => simp
  | cons c s ih =>
    cases text with
    | nil => simp [takes, Item.literal]
    | cons b text =>
      rw [List.map_cons, List.cons_append, Item.literal, takes, Bool.and_eq_true, ih, beq_iff_eq]
      constructor
      · rintro ⟨rfl, rest, rfl, taken⟩
        exact ⟨rest, rfl, taken⟩
      · rintro ⟨rest, same, taken⟩
        obtain ⟨rfl, rfl⟩ := List.cons.inj same
        exact ⟨rfl, rest, rfl, taken⟩

theorem takes_anySequence {text : List Char} : takes [.anySequence] text = true :=
  takes_anySequence_iff.mpr ⟨text, [], (List.append_nil text).symm, rfl⟩

end LikePattern

namespace Like

open LikePattern

/-- What a comparison asks of a text. -/
def Holds (text : String) : Like → Prop
  | contains s => s.toList <:+: text.toList
  | startsWith s => s.toList <+: text.toList
  | endsWith s => s.toList <:+ text.toList

/-- What a pattern that asks for a text is read as. -/
def items : Like → List Item
  | contains s => .anySequence :: (s.toList.map .literal ++ [.anySequence])
  | startsWith s => s.toList.map .literal ++ [.anySequence]
  | endsWith s => .anySequence :: s.toList.map .literal

theorem read?_pattern (p : Like) : read? p.pattern.toList = some p.items := by
  cases p with
  | contains s =>
    have pattern : (contains s).pattern.toList =
        '%' :: (s.toList.flatMap escapeChar ++ ['%']) := by
      simp [pattern, escape]
    rw [pattern, read?_ordinary (by decide), read?_escape]
    rfl
  | startsWith s =>
    have pattern : (startsWith s).pattern.toList = s.toList.flatMap escapeChar ++ ['%'] := by
      simp [pattern, escape]
    rw [pattern, read?_escape]
    rfl
  | endsWith s =>
    have pattern : (endsWith s).pattern.toList =
        '%' :: (s.toList.flatMap escapeChar ++ []) := by
      simp [pattern, escape]
    rw [pattern, read?_ordinary (by decide), read?_escape]
    simp [read?, items, Item.ofChar]

theorem takes_items_iff (p : Like) (text : String) :
    takes p.items text.toList = true ↔ p.Holds text := by
  cases p with
  | contains s =>
    rw [items, takes_anySequence_iff]
    constructor
    · rintro ⟨skipped, rest, whole, taken⟩
      obtain ⟨last, rfl, -⟩ := takes_literals_iff.mp taken
      exact ⟨skipped, last, by rw [whole, List.append_assoc]⟩
    · rintro ⟨skipped, last, whole⟩
      refine ⟨skipped, s.toList ++ last, ?_, takes_literals_iff.mpr ⟨last, rfl, ?_⟩⟩
      · rw [← whole, List.append_assoc]
      · exact takes_anySequence
  | startsWith s =>
    rw [items, takes_literals_iff]
    constructor
    · rintro ⟨rest, whole, -⟩
      exact ⟨rest, whole.symm⟩
    · rintro ⟨rest, whole⟩
      exact ⟨rest, whole.symm, takes_anySequence⟩
  | endsWith s =>
    rw [items, takes_anySequence_iff]
    constructor
    · rintro ⟨skipped, rest, whole, taken⟩
      rw [← List.append_nil (s.toList.map _)] at taken
      obtain ⟨none, rfl, empty⟩ := takes_literals_iff.mp taken
      rw [takes_nil_iff.mp empty, List.append_nil] at whole
      exact ⟨skipped, whole.symm⟩
    · rintro ⟨skipped, whole⟩
      refine ⟨skipped, s.toList, whole.symm, ?_⟩
      rw [← List.append_nil (s.toList.map _)]
      exact takes_literals_iff.mpr ⟨[], (List.append_nil _).symm, rfl⟩

end Like

/-- The pattern that a comparison binds is well formed, and a text matches it just when the text
contains, starts with or ends with what was asked for. -/
theorem pattern_matches_literally (d : Dialect) (f : Field) (p : Like) :
    ∃ pattern items, ((Criterion.like p).clause d f).bindings = [(f.kind, .text pattern)] ∧
      LikePattern.read? pattern.toList = some items ∧
      ∀ text : String, LikePattern.takes items text.toList = true ↔ p.Holds text :=
  ⟨p.pattern, p.items, rfl, p.read?_pattern, p.takes_items_iff⟩

/-- A text that ends in an escape, which stands just before the closing wildcard. -/
example : (LikePattern.read? (Like.contains "50%\\").pattern.toList).map
    (LikePattern.takes · "save 50%\\ now".toList) = some true := by decide

end EntityFilter
