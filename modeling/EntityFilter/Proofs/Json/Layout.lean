import EntityFilter.Json.Node
import EntityFilter.Proofs.Json.Literal
import Mathlib.Data.List.DropRight

/-!
Texts laid out.  A layout is a tree of nodes with everything of their text, the white space between
them included.  The scanner reads the text of a layout as its node, and whatever it reads is the
text of a layout.
-/

namespace EntityFilter.Json

/-- White space between the parts of a text. -/
structure Gap where
  chars : List Char
  blank : ∀ c ∈ chars, isSpace c

namespace Gap

def empty : Gap := ⟨[], nofun⟩

@[simp]
theorem skipSpace_append (g : Gap) (cs : List Char) : skipSpace (g.chars ++ cs) = skipSpace cs :=
  List.dropWhile_append_of_pos g.blank

theorem exists_append (cs : List Char) : ∃ g : Gap, cs = g.chars ++ skipSpace cs :=
  ⟨⟨cs.takeWhile isSpace, fun _ => List.mem_takeWhile_imp⟩, List.takeWhile_append_dropWhile.symm⟩

end Gap

@[simp]
theorem skipSpace_cons {c : Char} {cs : List Char} (h : isSpace c = false) :
    skipSpace (c :: cs) = c :: cs := by
  simp [skipSpace, h]

/-- The end of the text, or a character that can follow a value. -/
def Delimited : List Char → Prop :=
  Ends fun c => isSpace c ∨ c = ',' ∨ c = ']' ∨ c = '\x7d'

/-- The text of a value without items and members, with the white space before it. -/
structure Token where
  text : List Char
  node : Node
  scanned : ∀ fuel rest, Delimited rest →
    Node.scan (fuel + 1) (text ++ rest) = (node, some rest)

/-- The text of a key and the colon behind it.  The key stands without its opening quote. -/
structure Key where
  chars : List Char
  after : Gap
  node : Node
  scanned : ∀ rest, Node.scanString (chars ++ rest) = (node, some rest)

def Key.text (key : Key) : List Char := '"' :: (key.chars ++ (key.after.chars ++ [':']))

/-- A value as it is spelled.  Arrays and objects have white space before them and after their
opening brackets, each item has some after it, and each member before and after it. -/
inductive Layout where
  | token (t : Token)
  | array (before inner : Gap) (items : List (Layout × Gap))
  | object (before inner : Gap) (members : List (Gap × (Key × Layout) × Gap))

namespace Layout

abbrev Member : Type := Gap × (Key × Layout) × Gap

/-- Texts with commas between them. -/
def separated (pieces : List (List Char)) : List Char := [','].intercalate pieces

mutual

def text : Layout → List Char
  | token t => t.text
  | array before inner items =>
    before.chars ++ '[' :: (inner.chars ++ (separated (itemTexts items) ++ [']']))
  | object before inner members =>
    before.chars ++ '\x7b' :: (inner.chars ++ (separated (memberTexts members) ++ ['\x7d']))

def itemTexts : List (Layout × Gap) → List (List Char)
  | [] => []
  | (l, after) :: rest => (l.text ++ after.chars) :: itemTexts rest

def memberTexts : List Member → List (List Char)
  | [] => []
  | (before, (key, l), after) :: rest =>
    (before.chars ++ (key.text ++ (l.text ++ after.chars))) :: memberTexts rest

end

mutual

def node : Layout → Node
  | token t => t.node
  | array _ _ items => .array (itemNodes items)
  | object _ _ members => .object (memberNodes members)

def itemNodes : List (Layout × Gap) → List Node
  | [] => []
  | (l, _) :: rest => l.node :: itemNodes rest

def memberNodes : List Member → List (Node × Node)
  | [] => []
  | (_, (key, l), _) :: rest => (key.node, l.node) :: memberNodes rest

end

theorem itemTexts_eq (items : List (Layout × Gap)) :
    itemTexts items = items.map fun i => i.1.text ++ i.2.chars := by
  induction items with
  | nil => rfl
  | cons i items ih => rw [itemTexts, ih, List.map_cons]

theorem memberTexts_eq (members : List Member) :
    memberTexts members = members.map fun m =>
      m.1.chars ++ (m.2.1.1.text ++ (m.2.1.2.text ++ m.2.2.chars)) := by
  induction members with
  | nil => rfl
  | cons m members ih => rw [memberTexts, ih, List.map_cons]

theorem itemNodes_eq (items : List (Layout × Gap)) :
    itemNodes items = items.map (·.1.node) := by
  induction items with
  | nil => rfl
  | cons i items ih => rw [itemNodes, ih, List.map_cons]

theorem memberNodes_eq (members : List Member) :
    memberNodes members = members.map fun m => (m.2.1.1.node, m.2.1.2.node) := by
  induction members with
  | nil => rfl
  | cons m members ih => rw [memberNodes, ih, List.map_cons]

theorem separated_singleton (piece : List Char) : separated [piece] = piece := by
  simp [separated, List.intercalate]

theorem separated_cons_cons (piece next : List Char) (pieces : List (List Char)) :
    separated (piece :: next :: pieces) = piece ++ ',' :: separated (next :: pieces) := by
  simp [separated, List.intercalate]

end Layout

namespace Node

theorem scan_congr {fuel : Nat} {cs cs' : List Char} (h : skipSpace cs = skipSpace cs') :
    scan fuel cs = scan fuel cs' := by
  cases fuel with
  | zero => rfl
  | succ fuel => rw [scan, scan, h]

theorem scanItems_congr {fuel : Nat} {cs cs' : List Char} (h : skipSpace cs = skipSpace cs') :
    scanItems fuel cs = scanItems fuel cs' := by
  cases fuel with
  | zero => rfl
  | succ fuel => rw [scanItems, scanItems, scan_congr h]

theorem scanMembers_congr {fuel : Nat} {cs cs' : List Char} (h : skipSpace cs = skipSpace cs') :
    scanMembers fuel cs = scanMembers fuel cs' := by
  cases fuel with
  | zero => rfl
  | succ fuel => rw [scanMembers, scanMembers, h]

theorem skipSpace_idem (cs : List Char) : skipSpace (skipSpace cs) = skipSpace cs :=
  List.dropWhile_idempotent _ cs

theorem scan_array_nil (fuel : Nat) (g : Gap) (rest : List Char) :
    scan (fuel + 1) ('[' :: (g.chars ++ ']' :: rest)) = (.array [], some rest) := by
  simp [scan, isSpace]

theorem scan_array {fuel : Nat} {cs : List Char} (h : ∀ rest, skipSpace cs ≠ ']' :: rest) :
    scan (fuel + 1) ('[' :: cs) = (.array (scanItems fuel cs).1, (scanItems fuel cs).2) := by
  simp [scan, isSpace, scanItems_congr (skipSpace_idem cs)]

theorem scan_object_nil (fuel : Nat) (g : Gap) (rest : List Char) :
    scan (fuel + 1) ('\x7b' :: (g.chars ++ '\x7d' :: rest)) = (.object [], some rest) := by
  simp [scan, isSpace]

theorem scan_object {fuel : Nat} {cs : List Char} (h : ∀ rest, skipSpace cs ≠ '\x7d' :: rest) :
    scan (fuel + 1) ('\x7b' :: cs) =
      (.object (scanMembers fuel cs).1, (scanMembers fuel cs).2) := by
  simp [scan, isSpace, scanMembers_congr (skipSpace_idem cs)]

theorem not_closing_of_scanItems {fuel : Nat} {cs rest : List Char} {items : List Node}
    (h : scanItems fuel cs = (items, some rest)) : ∀ rest, skipSpace cs ≠ ']' :: rest := by
  intro rest closed
  rcases fuel with _ | _ | fuel
  · cases h
  · cases h
  · rw [scanItems, scan, closed] at h
    cases h

theorem not_closing_of_scanMembers {fuel : Nat} {cs rest : List Char}
    {members : List (Node × Node)} (h : scanMembers fuel cs = (members, some rest)) :
    ∀ rest, skipSpace cs ≠ '\x7d' :: rest := by
  intro rest closed
  cases fuel with
  | zero => cases h
  | succ fuel =>
    rw [scanMembers, closed] at h
    cases h

theorem scanItems_last {fuel : Nat} {cs rest : List Char} {item : Node} {g : Gap}
    (h : scan fuel cs = (item, some (g.chars ++ ']' :: rest))) :
    scanItems (fuel + 1) cs = ([item], some rest) := by
  simp [scanItems, h, isSpace]

theorem scanItems_next {fuel : Nat} {cs rest : List Char} {item : Node} {g : Gap}
    (h : scan fuel cs = (item, some (g.chars ++ ',' :: rest))) :
    scanItems (fuel + 1) cs = (item :: (scanItems fuel rest).1, (scanItems fuel rest).2) := by
  simp [scanItems, h, isSpace]

theorem scanMembers_last (before : Gap) (key : Key) {fuel : Nat} {cs rest : List Char}
    {value : Node} {g : Gap} (h : scan fuel cs = (value, some (g.chars ++ '\x7d' :: rest))) :
    scanMembers (fuel + 1) (before.chars ++ (key.text ++ cs)) =
      ([(key.node, value)], some rest) := by
  simp [scanMembers, Key.text, key.scanned, h, isSpace]

theorem scanMembers_next (before : Gap) (key : Key) {fuel : Nat} {cs rest : List Char}
    {value : Node} {g : Gap} (h : scan fuel cs = (value, some (g.chars ++ ',' :: rest))) :
    scanMembers (fuel + 1) (before.chars ++ (key.text ++ cs)) =
      ((key.node, value) :: (scanMembers fuel rest).1, (scanMembers fuel rest).2) := by
  simp [scanMembers, Key.text, key.scanned, h, isSpace]

end Node

theorem Gap.delimited_append (g : Gap) {c : Char} (rest : List Char)
    (h : c = ',' ∨ c = ']' ∨ c = '\x7d') : Delimited (g.chars ++ c :: rest) := by
  refine Ends.append (fun d hd => .inl (g.blank d (List.mem_of_mem_head? hd))) ?_
  rintro d hd
  cases hd
  exact .inr h

namespace Layout

open Node

mutual

/-- The scanner reads the text of a layout as its node, given fuel for it. -/
theorem scan_text (l : Layout) {fuel : Nat} {rest : List Char} (ends : Delimited rest)
    (enough : 2 * l.text.length < fuel) : scan fuel (l.text ++ rest) = (l.node, some rest) := by
  -- A level takes two steps of fuel, and its two brackets have paid for them.
  obtain ⟨fuel, rfl⟩ := Nat.exists_eq_add_one_of_ne_zero (Nat.ne_zero_of_lt enough)
  cases l with
  | token t => exact t.scanned fuel rest ends
  | array before inner items =>
    rw [text] at enough ⊢
    simp only [List.append_assoc, List.cons_append, List.length_append, List.length_cons,
      List.nil_append, scan_congr (before.skipSpace_append _)] at enough ⊢
    cases items with
    | nil => exact scan_array_nil fuel inner rest
    | cons i items =>
      have read : scanItems fuel (separated (itemTexts (i :: items)) ++ ']' :: rest) =
          (itemNodes (i :: items), some rest) := scanItems_texts i items (by omega)
      rw [scan_array, scanItems_congr (inner.skipSpace_append _), read]
      · rfl
      · rw [inner.skipSpace_append]
        exact not_closing_of_scanItems read
  | object before inner members =>
    rw [text] at enough ⊢
    simp only [List.append_assoc, List.cons_append, List.length_append, List.length_cons,
      List.nil_append, scan_congr (before.skipSpace_append _)] at enough ⊢
    cases members with
    | nil => exact scan_object_nil fuel inner rest
    | cons m members =>
      have read : scanMembers fuel (separated (memberTexts (m :: members)) ++ '\x7d' :: rest) =
          (memberNodes (m :: members), some rest) := scanMembers_texts m members (by omega)
      rw [scan_object, scanMembers_congr (inner.skipSpace_append _), read]
      · rfl
      · rw [inner.skipSpace_append]
        exact not_closing_of_scanMembers read
termination_by fuel

theorem scanItems_texts (i : Layout × Gap) (items : List (Layout × Gap)) {fuel : Nat}
    {rest : List Char} (enough : 2 * (separated (itemTexts (i :: items))).length + 1 < fuel) :
    scanItems fuel (separated (itemTexts (i :: items)) ++ ']' :: rest) =
      (itemNodes (i :: items), some rest) := by
  obtain ⟨fuel, rfl⟩ := Nat.exists_eq_add_one_of_ne_zero (Nat.ne_zero_of_lt enough)
  obtain ⟨l, after⟩ := i
  cases items with
  | nil =>
    simp only [itemTexts, separated_singleton, List.append_assoc, List.length_append] at enough ⊢
    exact scanItems_last (l.scan_text (after.delimited_append rest (by simp)) (by omega))
  | cons i items =>
    simp only [itemTexts, separated_cons_cons, List.append_assoc, List.length_append,
      List.length_cons, List.cons_append] at enough ⊢
    rw [scanItems_next (l.scan_text (after.delimited_append _ (by simp)) (by omega)),
      ← itemTexts, scanItems_texts i items (by rw [itemTexts]; omega)]
    rfl
termination_by fuel

theorem scanMembers_texts (m : Member) (members : List Member)
    {fuel : Nat} {rest : List Char}
    (enough : 2 * (separated (memberTexts (m :: members))).length + 1 < fuel) :
    scanMembers fuel (separated (memberTexts (m :: members)) ++ '\x7d' :: rest) =
      (memberNodes (m :: members), some rest) := by
  obtain ⟨fuel, rfl⟩ := Nat.exists_eq_add_one_of_ne_zero (Nat.ne_zero_of_lt enough)
  obtain ⟨before, ⟨key, l⟩, after⟩ := m
  cases members with
  | nil =>
    simp only [memberTexts, separated_singleton, List.append_assoc, List.length_append]
      at enough ⊢
    exact scanMembers_last before key
      (l.scan_text (after.delimited_append rest (by simp)) (by omega))
  | cons m members =>
    simp only [memberTexts, separated_cons_cons, List.append_assoc, List.length_append,
      List.length_cons, List.cons_append] at enough ⊢
    rw [scanMembers_next before key (l.scan_text (after.delimited_append _ (by simp)) (by omega)),
      ← memberTexts, scanMembers_texts m members (by rw [memberTexts]; omega)]
    rfl
termination_by fuel

end

end Layout

namespace Node

theorem exists_of_scanString {cs rest : List Char} {n : Node}
    (h : scanString cs = (n, some rest)) :
    ∃ front, cs = front ++ rest ∧ ∀ rest, scanString (front ++ rest) = (n, some rest) := by
  unfold scanString at h ⊢
  split at h
  · rename_i parts rest' read
    obtain ⟨front, rfl, takes⟩ := StringPart.exists_of_readAll? read
    refine ⟨front, ?_, fun rest => ?_⟩
    · split at h <;> cases h <;> rfl
    · rw [takes rest (fun _ _ => trivial)]
      split at h <;> cases h <;> simp [*]
  · cases h

theorem exists_of_scanNumber {cs rest : List Char} {n : Node}
    (h : scanNumber cs = (n, some rest)) :
    ∃ front, cs = front ++ rest ∧ front ≠ [] ∧
      ∀ rest, Ends NumberLiteral.Foreign rest → scanNumber (front ++ rest) = (n, some rest) := by
  unfold scanNumber at h ⊢
  split at h
  · rename_i literal rest' read
    obtain ⟨front, rfl, present, takes⟩ := NumberLiteral.exists_of_read? read
    refine ⟨front, ?_, present, fun rest ends => ?_⟩
    · split at h <;> cases h <;> rfl
    · rw [takes rest ends]
      split at h <;> cases h <;> simp [*]
  · cases h

theorem afterStart?_eq_some {start cs rest : List Char} :
    afterStart? start cs = some rest ↔ cs = start ++ rest := by
  unfold afterStart?
  constructor
  · intro h
    split at h
    · rename_i begins
      obtain ⟨rest', rfl⟩ := List.isPrefixOf_iff_prefix.mp begins
      simpa using h
    · cases h
  · rintro rfl
    simp

theorem scanWord_eq_some {cs rest : List Char} {n : Node} :
    scanWord cs = (n, some rest) ↔
      cs = "null".toList ++ rest ∧ n = .null ∨ cs = "true".toList ++ rest ∧ n = .bool true ∨
        cs = "false".toList ++ rest ∧ n = .bool false := by
  constructor
  · intro h
    unfold scanWord at h
    split at h
    · cases h
      exact .inl ⟨afterStart?_eq_some.mp ‹_›, rfl⟩
    · split at h
      · cases h
        exact .inr (.inl ⟨afterStart?_eq_some.mp ‹_›, rfl⟩)
      · split at h
        · cases h
          exact .inr (.inr ⟨afterStart?_eq_some.mp ‹_›, rfl⟩)
        · cases h
  · rintro (⟨rfl, rfl⟩ | ⟨rfl, rfl⟩ | ⟨rfl, rfl⟩) <;> simp [scanWord, afterStart?]

theorem exists_of_scanWord {cs rest : List Char} {n : Node} (h : scanWord cs = (n, some rest)) :
    ∃ front, cs = front ++ rest ∧ front ≠ [] ∧
      ∀ rest, scanWord (front ++ rest) = (n, some rest) := by
  rcases scanWord_eq_some.mp h with ⟨spelled, rfl⟩ | ⟨spelled, rfl⟩ | ⟨spelled, rfl⟩
  · exact ⟨_, spelled, by simp, fun rest => scanWord_eq_some.mpr (.inl ⟨rfl, rfl⟩)⟩
  · exact ⟨_, spelled, by simp, fun rest => scanWord_eq_some.mpr (.inr (.inl ⟨rfl, rfl⟩))⟩
  · exact ⟨_, spelled, by simp, fun rest => scanWord_eq_some.mpr (.inr (.inr ⟨rfl, rfl⟩))⟩

theorem scan_scalar {fuel : Nat} {c : Char} {cs : List Char} (notBlank : isSpace c = false)
    (notString : c ≠ '"') (notArray : c ≠ '[') (notObject : c ≠ '\x7b') :
    scan (fuel + 1) (c :: cs) =
      if c = '-' ∨ c.isDigit then scanNumber (c :: cs) else scanWord (c :: cs) := by
  simp [scan, notBlank]

end Node

theorem Delimited.foreign {rest : List Char} (h : Delimited rest) :
    Ends NumberLiteral.Foreign rest := by
  refine h.mono fun c hc => ?_
  rcases hc with blank | rfl | rfl | rfl
  · simp only [isSpace, Bool.or_eq_true, decide_eq_true_eq] at blank
    rcases blank with ((rfl | rfl) | rfl) | rfl <;> simp [NumberLiteral.Foreign]
  all_goals simp [NumberLiteral.Foreign]

theorem Token.exists_of_scan {fuel : Nat} {cs cs' rest : List Char} {c : Char} {n : Node}
    (first : skipSpace cs = c :: cs') (notArray : c ≠ '[') (notObject : c ≠ '\x7b')
    (h : Node.scan (fuel + 1) cs = (n, some rest)) :
    ∃ t : Token, cs = t.text ++ rest ∧ t.node = n := by
  obtain ⟨g, split⟩ := Gap.exists_append cs
  have notBlank : isSpace c = false := by
    have head := List.head?_dropWhile_not isSpace cs
    rw [show cs.dropWhile isSpace = c :: cs' from first] at head
    simpa using head
  -- It is enough to take the first character and what belongs to it apart from the rest.
  suffices ∃ front, cs' = front ++ rest ∧ ∀ fuel rest, Delimited rest →
      Node.scan (fuel + 1) (c :: (front ++ rest)) = (n, some rest) by
    obtain ⟨front, rfl, again⟩ := this
    refine ⟨⟨g.chars ++ c :: front, n, fun fuel rest ends => ?_⟩, ?_, rfl⟩
    · rw [List.append_assoc, Node.scan_congr (g.skipSpace_append _)]
      exact again fuel rest ends
    · rw [List.append_assoc, List.cons_append, ← first]
      exact split
  rw [split, first, Node.scan_congr (g.skipSpace_append _)] at h
  by_cases quote : c = '"'
  · subst quote
    have string : ∀ fuel cs, Node.scan (fuel + 1) ('"' :: cs) = Node.scanString cs := by
      intro fuel cs
      simp [Node.scan, isSpace]
    rw [string] at h
    obtain ⟨front, spelled, again⟩ := Node.exists_of_scanString h
    exact ⟨front, spelled, fun fuel rest _ => (string fuel _).trans (again rest)⟩
  · by_cases number : c = '-' ∨ c.isDigit
    · simp only [Node.scan_scalar notBlank quote notArray notObject, if_pos number] at h ⊢
      obtain ⟨front, spelled, present, again⟩ := Node.exists_of_scanNumber h
      obtain ⟨d, front, rfl⟩ := List.exists_cons_of_ne_nil present
      cases spelled
      exact ⟨front, rfl, fun _ rest ends => again rest ends.foreign⟩
    · simp only [Node.scan_scalar notBlank quote notArray notObject, if_neg number] at h ⊢
      obtain ⟨front, spelled, present, again⟩ := Node.exists_of_scanWord h
      obtain ⟨d, front, rfl⟩ := List.exists_cons_of_ne_nil present
      cases spelled
      exact ⟨front, rfl, fun _ rest _ => again rest⟩

namespace Node

theorem of_scan_array_eq_some {fuel : Nat} {cs rest : List Char} {n : Node}
    (h : scan (fuel + 1) ('[' :: cs) = (n, some rest)) :
    (∃ g : Gap, cs = g.chars ++ ']' :: rest ∧ n = .array []) ∨
      ∃ items, scanItems fuel cs = (items, some rest) ∧ n = .array items := by
  by_cases closed : ∃ rest, skipSpace cs = ']' :: rest
  · obtain ⟨rest', closed⟩ := closed
    obtain ⟨g, empty⟩ := Gap.exists_append cs
    rw [closed] at empty
    rw [empty, scan_array_nil] at h
    cases h
    exact .inl ⟨g, empty, rfl⟩
  · rw [scan_array fun rest h => closed ⟨rest, h⟩] at h
    obtain ⟨rfl, whole⟩ := Prod.ext_iff.mp h
    exact .inr ⟨_, Prod.ext rfl whole, rfl⟩

theorem of_scan_object_eq_some {fuel : Nat} {cs rest : List Char} {n : Node}
    (h : scan (fuel + 1) ('\x7b' :: cs) = (n, some rest)) :
    (∃ g : Gap, cs = g.chars ++ '\x7d' :: rest ∧ n = .object []) ∨
      ∃ members, scanMembers fuel cs = (members, some rest) ∧ n = .object members := by
  by_cases closed : ∃ rest, skipSpace cs = '\x7d' :: rest
  · obtain ⟨rest', closed⟩ := closed
    obtain ⟨g, empty⟩ := Gap.exists_append cs
    rw [closed] at empty
    rw [empty, scan_object_nil] at h
    cases h
    exact .inl ⟨g, empty, rfl⟩
  · rw [scan_object fun rest h => closed ⟨rest, h⟩] at h
    obtain ⟨rfl, whole⟩ := Prod.ext_iff.mp h
    exact .inr ⟨_, Prod.ext rfl whole, rfl⟩

theorem of_scanItems_eq_some {fuel : Nat} {cs rest : List Char} {nodes : List Node}
    (h : scanItems (fuel + 1) cs = (nodes, some rest)) :
    ∃ item rest₁, scan fuel cs = (item, some rest₁) ∧ ∃ g : Gap,
      rest₁ = g.chars ++ ']' :: rest ∧ nodes = [item] ∨
      ∃ rest₂, rest₁ = g.chars ++ ',' :: rest₂ ∧ ∃ items,
        scanItems fuel rest₂ = (items, some rest) ∧ nodes = item :: items := by
  rw [scanItems] at h
  split at h
  · cases h
  · rename_i item rest₁ first
    obtain ⟨g, split⟩ := Gap.exists_append rest₁
    refine ⟨item, rest₁, first, g, ?_⟩
    split at h
    · rename_i rest₂ comma
      obtain ⟨rfl, whole⟩ := Prod.ext_iff.mp h
      exact .inr ⟨rest₂, comma ▸ split, _, Prod.ext rfl whole, rfl⟩
    · rename_i closed
      cases h
      exact .inl ⟨closed ▸ split, rfl⟩
    · cases h

theorem of_scanMembers_eq_some {fuel : Nat} {cs rest : List Char} {nodes : List (Node × Node)}
    (h : scanMembers (fuel + 1) cs = (nodes, some rest)) :
    ∃ (before : Gap) (key : Key) (cs' : List Char), cs = before.chars ++ (key.text ++ cs') ∧
      ∃ value rest₁, scan fuel cs' = (value, some rest₁) ∧ ∃ g : Gap,
        rest₁ = g.chars ++ '\x7d' :: rest ∧ nodes = [(key.node, value)] ∨
        ∃ rest₂, rest₁ = g.chars ++ ',' :: rest₂ ∧ ∃ members,
          scanMembers fuel rest₂ = (members, some rest) ∧
            nodes = (key.node, value) :: members := by
  rw [scanMembers] at h
  split at h
  · rename_i rest₁ quote
    obtain ⟨before, split⟩ := Gap.exists_append cs
    split at h
    · cases h
    · rename_i key rest₂ scanned
      obtain ⟨name, rfl, again⟩ := exists_of_scanString scanned
      obtain ⟨after, split'⟩ := Gap.exists_append rest₂
      split at h
      · rename_i cs' colon
        rw [quote] at split
        rw [colon] at split'
        refine ⟨before, ⟨name, after, key, again⟩, cs', by simp [split, split', Key.text], ?_⟩
        split at h
        · cases h
        · rename_i value rest₁ first
          obtain ⟨g, split⟩ := Gap.exists_append rest₁
          refine ⟨value, rest₁, first, g, ?_⟩
          split at h
          · rename_i rest₂ comma
            obtain ⟨rfl, whole⟩ := Prod.ext_iff.mp h
            exact .inr ⟨rest₂, comma ▸ split, _, Prod.ext rfl whole, rfl⟩
          · rename_i closed
            cases h
            exact .inl ⟨closed ▸ split, rfl⟩
          · cases h
      · cases h
  · cases h

end Node

namespace Layout

open Node

mutual

/-- Whatever the scanner reads is the text of a layout. -/
theorem exists_of_scan {fuel : Nat} {cs rest : List Char} {n : Node}
    (h : scan fuel cs = (n, some rest)) : ∃ l : Layout, cs = l.text ++ rest ∧ l.node = n := by
  cases fuel with
  | zero => cases h
  | succ fuel =>
    obtain ⟨before, split⟩ := Gap.exists_append cs
    cases first : skipSpace cs with
    | nil =>
      rw [scan, first] at h
      cases h
    | cons c cs' =>
      by_cases array : c = '['
      · subst array
        rw [first] at split
        rw [split, scan_congr (before.skipSpace_append _)] at h
        obtain ⟨inner, rfl, rfl⟩ | ⟨items, read, rfl⟩ := of_scan_array_eq_some h
        · exact ⟨.array before inner [], by simp [split, text, itemTexts, separated], rfl⟩
        · obtain ⟨i, items, rfl, rfl⟩ := exists_of_scanItems read
          exact ⟨.array before .empty (i :: items), by simp [split, text, Gap.empty], rfl⟩
      · by_cases object : c = '\x7b'
        · subst object
          rw [first] at split
          rw [split, scan_congr (before.skipSpace_append _)] at h
          obtain ⟨inner, rfl, rfl⟩ | ⟨members, read, rfl⟩ := of_scan_object_eq_some h
          · exact ⟨.object before inner [], by simp [split, text, memberTexts, separated], rfl⟩
          · obtain ⟨m, members, rfl, rfl⟩ := exists_of_scanMembers read
            exact ⟨.object before .empty (m :: members), by simp [split, text, Gap.empty], rfl⟩
        · obtain ⟨t, spelled, read⟩ := Token.exists_of_scan first array object h
          exact ⟨.token t, spelled, read⟩

theorem exists_of_scanItems {fuel : Nat} {cs rest : List Char} {nodes : List Node}
    (h : scanItems fuel cs = (nodes, some rest)) :
    ∃ i items, cs = separated (itemTexts (i :: items)) ++ ']' :: rest ∧
      itemNodes (i :: items) = nodes := by
  cases fuel with
  | zero => cases h
  | succ fuel =>
    obtain ⟨item, rest₁, first, g, ⟨rfl, rfl⟩ | ⟨rest₂, rfl, items, others, rfl⟩⟩ :=
      of_scanItems_eq_some h
    · obtain ⟨l, rfl, rfl⟩ := exists_of_scan first
      exact ⟨(l, g), [], by simp [itemTexts, separated_singleton], rfl⟩
    · obtain ⟨l, rfl, rfl⟩ := exists_of_scan first
      obtain ⟨i, items, rfl, rfl⟩ := exists_of_scanItems others
      exact ⟨(l, g), i :: items, by simp [itemTexts, separated_cons_cons], rfl⟩

theorem exists_of_scanMembers {fuel : Nat} {cs rest : List Char} {nodes : List (Node × Node)}
    (h : scanMembers fuel cs = (nodes, some rest)) :
    ∃ m members, cs = separated (memberTexts (m :: members)) ++ '\x7d' :: rest ∧
      memberNodes (m :: members) = nodes := by
  cases fuel with
  | zero => cases h
  | succ fuel =>
    obtain ⟨before, key, cs', rfl, value, rest₁, first, g,
      ⟨rfl, rfl⟩ | ⟨rest₂, rfl, members, others, rfl⟩⟩ := of_scanMembers_eq_some h
    · obtain ⟨l, rfl, rfl⟩ := exists_of_scan first
      exact ⟨(before, (key, l), g), [], by simp [memberTexts, separated_singleton], rfl⟩
    · obtain ⟨l, rfl, rfl⟩ := exists_of_scan first
      obtain ⟨m, members, rfl, rfl⟩ := exists_of_scanMembers others
      exact ⟨(before, (key, l), g), m :: members, by simp [memberTexts, separated_cons_cons], rfl⟩

end

/-- A text that is a layout and nothing else but white space. -/
def spell (l : Layout) (after : Gap) : String := String.ofList (l.text ++ after.chars)

theorem ofText_spell (l : Layout) (after : Gap) :
    Document.ofText (l.spell after) = ⟨l.node, false⟩ := by
  have ends : Delimited after.chars := fun c hc => .inl (after.blank c (List.mem_of_mem_head? hc))
  have read : scan (2 * (l.text ++ after.chars).length + 2) (l.text ++ after.chars) =
      (l.node, some after.chars) := by
    refine l.scan_text ends ?_
    rw [List.length_append]
    omega
  have blank : skipSpace after.chars = [] := List.dropWhile_eq_nil_iff.mpr after.blank
  rw [Document.ofText, spell, String.toList_ofList]
  simp only [read, blank, List.isEmpty_nil, Bool.not_true]

theorem exists_spell {text : String} (whole : (Document.ofText text).trailing = false) :
    ∃ (l : Layout) (after : Gap), text = l.spell after := by
  unfold Document.ofText at whole
  cases read : scan (2 * text.toList.length + 2) text.toList with
  | mk root rest =>
    cases rest with
    | none => simp [read] at whole
    | some rest =>
      obtain ⟨l, spelled, -⟩ := exists_of_scan read
      have blank : skipSpace rest = [] := by simpa [read] using whole
      refine ⟨l, ⟨rest, List.dropWhile_eq_nil_iff.mp blank⟩, ?_⟩
      rw [spell, ← spelled, String.ofList_toList]

end Layout
end EntityFilter.Json
