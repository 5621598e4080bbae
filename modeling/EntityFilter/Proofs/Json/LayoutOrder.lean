import EntityFilter.Proofs.Json.Layout
import EntityFilter.Proofs.Json.Order
import Mathlib.Data.List.Perm.Basic
import Mathlib.Data.String.Basic

/-!
Texts whose members come in another order.  They have the same characters, and they spell the same
node but for the order of its members.
-/

namespace EntityFilter.Json

namespace Layout

/-- The same layout but for the order of its members, when items and values are related by `R`.  A
member keeps its key and its value; the white space around members may go with them or stay. -/
inductive Shuffled (R : Layout → Layout → Prop) : Layout → Layout → Prop
  | same (l : Layout) : Shuffled R l l
  | array (before inner : Gap) {items items' : List (Layout × Gap)}
      (related : List.Forall₂ (fun i i' => R i.1 i'.1 ∧ i.2 = i'.2) items items') :
      Shuffled R (.array before inner items) (.array before inner items')
  | object (before inner : Gap) {members members' : List Member}
      {middle : List (Key × Layout)}
      (related : List.Forall₂ (fun m m' => m.1 = m'.1 ∧ R m.2 m'.2) (members.map (·.2.1)) middle)
      (order : middle.Perm (members'.map (·.2.1)))
      (gaps : (members.map fun m => (m.1, m.2.2)).Perm (members'.map fun m => (m.1, m.2.2))) :
      Shuffled R (.object before inner members) (.object before inner members')

/-- The same layout but for the order of members in its outermost levels. -/
def Reordered : Nat → Layout → Layout → Prop
  | 0 => Eq
  | levels + 1 => Shuffled (Reordered levels)

theorem Reordered.refl (levels : Nat) (l : Layout) : Reordered levels l l := by
  cases levels with
  | zero => rfl
  | succ levels => exact .same l

theorem Reordered.node {levels : Nat} {l l' : Layout} (h : Reordered levels l l') :
    Node.Reordered levels l.node l'.node := by
  induction levels generalizing l l' with
  | zero => exact congrArg Layout.node h
  | succ levels ih =>
    cases h with
    | same => exact .same _
    | array before inner related =>
      rw [Layout.node, Layout.node, itemNodes_eq, itemNodes_eq]
      refine .array ?_
      rw [List.forall₂_map_left_iff, List.forall₂_map_right_iff]
      exact related.imp fun _ _ same => ih same.1
    | @object before inner members members' middle related order gaps =>
      rw [Layout.node, Layout.node, memberNodes_eq, memberNodes_eq]
      have order' := order.map fun p : Key × Layout => (p.1.node, p.2.node)
      rw [List.map_map] at order'
      refine .object ?_ order'
      rw [List.forall₂_map_left_iff] at related ⊢
      rw [List.forall₂_map_right_iff]
      exact related.imp fun _ _ same => ⟨congrArg Key.node same.1, ih same.2⟩

theorem separated_perm (pieces : List (List Char)) :
    (separated pieces).Perm (pieces.flatten ++ List.replicate (pieces.length - 1) ',') := by
  induction pieces with
  | nil => simp [separated]
  | cons piece pieces ih =>
    cases pieces with
    | nil => simp [separated_singleton]
    | cons next pieces =>
      rw [separated_cons_cons, List.flatten_cons, List.append_assoc]
      refine .append_left piece ?_
      exact (ih.cons ',').trans List.perm_middle.symm

theorem separated_congr {pieces pieces' : List (List Char)}
    (length : pieces.length = pieces'.length)
    (h : pieces.flatten.Perm pieces'.flatten) : (separated pieces).Perm (separated pieces') := by
  refine (separated_perm pieces).trans (.trans ?_ (separated_perm pieces').symm)
  rw [length]
  exact h.append_right _

theorem memberTexts_perm (members : List Member) :
    (memberTexts members).flatten.Perm
      ((members.map (·.2.1)).flatMap (fun p => p.1.text ++ p.2.text) ++
        (members.map fun m => (m.1, m.2.2)).flatMap fun g => g.1.chars ++ g.2.chars) := by
  rw [memberTexts_eq, ← List.flatMap_def, List.flatMap_map, List.flatMap_map]
  refine .trans (.flatMap_left _ fun m _ => ?_) (List.flatMap_append_perm _ _ _).symm
  rw [← List.append_assoc m.2.1.1.text]
  exact List.perm_append_comm_assoc _ _ _

theorem Reordered.text_perm {levels : Nat} {l l' : Layout} (h : Reordered levels l l') :
    l.text.Perm l'.text := by
  induction levels generalizing l l' with
  | zero => rw [h]
  | succ levels ih =>
    cases h with
    | same => exact .refl _
    | array before inner related =>
      rw [text, text, itemTexts_eq, itemTexts_eq]
      refine .append_left _ (.cons _ (.append_left _ (.append_right _ (separated_congr ?_ ?_))))
      · rw [List.length_map, List.length_map, related.length_eq]
      · refine List.Perm.flatten_congr ?_
        rw [List.forall₂_map_left_iff, List.forall₂_map_right_iff]
        refine related.imp fun i i' same => ?_
        rw [same.2]
        exact (ih same.1).append_right _
    | @object before inner members members' middle related order gaps =>
      rw [text, text]
      refine .append_left _ (.cons _ (.append_left _ (.append_right _ (separated_congr ?_ ?_))))
      · simpa [memberTexts_eq] using gaps.length_eq
      · refine (memberTexts_perm members).trans (.trans ?_ (memberTexts_perm members').symm)
        refine .append (.trans ?_ (order.flatMap_right _)) (gaps.flatMap_right _)
        rw [List.flatMap_def, List.flatMap_def]
        refine List.Perm.flatten_congr ?_
        rw [List.forall₂_map_left_iff, List.forall₂_map_right_iff]
        refine related.imp fun p p' same => ?_
        rw [same.1]
        exact (ih same.2).append_left _

theorem utf8Len_perm {cs cs' : List Char} (h : cs.Perm cs') :
    String.utf8Len cs = String.utf8Len cs' := by
  induction h with
  | nil => rfl
  | cons c _ ih => rw [String.utf8Len_cons, String.utf8Len_cons, ih]
  | swap c c' cs =>
    simp only [String.utf8Len_cons]
    omega
  | trans _ _ ih ih' => rw [ih, ih']

theorem Reordered.utf8ByteSize_spell {levels : Nat} {l l' : Layout} (h : Reordered levels l l')
    (after : Gap) : (l'.spell after).utf8ByteSize = (l.spell after).utf8ByteSize := by
  rw [spell, spell, String.utf8ByteSize_ofList, String.utf8ByteSize_ofList]
  exact utf8Len_perm (h.text_perm.append_right _).symm

theorem Reordered.length_spell {levels : Nat} {l l' : Layout} (h : Reordered levels l l')
    (after : Gap) : (l'.spell after).length = (l.spell after).length := by
  simp [spell, h.text_perm.length_eq]

end Layout

/-- Whether a character stands for itself in a string. -/
def isPlain (c : Char) : Bool := c != '"' && c != '\\' && 32 ≤ c.toNat

theorem scanString_plain {cs : List Char} (plain : cs.all isPlain) (rest : List Char) :
    Node.scanString (cs ++ '"' :: rest) = (.string (String.ofList cs), some rest) := by
  have parts : StringPart.readAll? (cs ++ '"' :: rest) = some (cs.map .char, rest) := by
    induction cs with
    | nil => rfl
    | cons c cs ih =>
      simp only [List.all_cons, isPlain, Bool.and_eq_true, bne_iff_ne, decide_eq_true_eq] at plain
      obtain ⟨⟨⟨_, noEscape⟩, noControl⟩, others⟩ := plain
      simp [StringPart.readAll?, noEscape, Nat.not_lt.mpr noControl, ih others]
  have whole : StringPart.assemble? (cs.map .char) = some cs := by
    clear plain parts
    induction cs with
    | nil => rfl
    | cons c cs ih => simp [StringPart.assemble?, ih]
  simp [Node.scanString, parts, whole]

/-- A string that is spelled as it is. -/
structure Word where
  name : String
  plain : name.toList.all isPlain := by decide

namespace Word

theorem scanString_append (w : Word) (rest : List Char) :
    Node.scanString (w.name.toList ++ ['"'] ++ rest) = (.string w.name, some rest) := by
  rw [List.append_assoc, List.singleton_append, scanString_plain w.plain, String.ofList_toList]

def key (w : Word) : Key :=
  ⟨w.name.toList ++ ['"'], .empty, .string w.name, w.scanString_append⟩

def token (w : Word) : Token where
  text := '"' :: (w.name.toList ++ ['"'])
  node := .string w.name
  scanned fuel rest _ := by
    have string := w.scanString_append rest
    simpa [Node.scan, isSpace] using string

end Word

namespace Layout

def word (w : Word) : Layout := .token w.token

/-- An array without white space between its items. -/
def list (items : List Layout) : Layout :=
  .array .empty .empty (items.map fun l => (l, .empty))

/-- An object without white space between its members. -/
def record (members : List (Word × Layout)) : Layout :=
  .object .empty .empty (members.map fun m => (.empty, (m.1.key, m.2), .empty))

theorem Reordered.list {levels : Nat} {items items' : List Layout}
    (related : List.Forall₂ (Reordered levels) items items') :
    Reordered (levels + 1) (.list items) (.list items') := by
  refine .array _ _ ?_
  rw [List.forall₂_map_left_iff, List.forall₂_map_right_iff]
  exact related.imp fun _ _ h => ⟨h, rfl⟩

theorem Reordered.record {levels : Nat} {members middle members' : List (Word × Layout)}
    (related : List.Forall₂ (fun m m' => m.1 = m'.1 ∧ Reordered levels m.2 m'.2) members middle)
    (order : middle.Perm members') :
    Reordered (levels + 1) (.record members) (.record members') := by
  have contents : List.Forall₂ (fun m m' => m.1 = m'.1 ∧ Reordered levels m.2 m'.2)
      (members.map fun m => (m.1.key, m.2)) (middle.map fun m => (m.1.key, m.2)) := by
    rw [List.forall₂_map_left_iff, List.forall₂_map_right_iff]
    exact related.imp fun _ _ h => ⟨congrArg Word.key h.1, h.2⟩
  refine @Shuffled.object _ .empty .empty _ _ (middle.map fun m => (m.1.key, m.2)) ?_ ?_ ?_
  · simpa [Function.comp_def] using contents
  · simpa [Function.comp_def] using order.map fun m => (m.1.key, m.2)
  · simp [Function.comp_def, related.length_eq, order.length_eq]

end Layout
end EntityFilter.Json
