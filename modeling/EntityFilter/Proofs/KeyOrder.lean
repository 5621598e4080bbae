import EntityFilter.Proofs.Conditions
import EntityFilter.Proofs.Json.LayoutOrder

/-!
The order of keys in a request.
-/

namespace EntityFilter

open Json

theorem Json.Stable.bind {α β : Type} {levels : Nat} {read : Reader α}
    (stable : Stable levels read) (k : α → Except ReadError β) :
    Stable levels fun n => read n >>= k := by
  intro n n' b related ok
  obtain ⟨a, first, rest⟩ := bind_eq_ok.mp ok
  exact bind_eq_ok.mpr ⟨a, stable _ _ _ related first, rest⟩

namespace Condition

def fieldSlot : Slot Draft where
  name := "field"
  get := Draft.field
  put d b := { d with field := b }
  read := Node.readString
  get_put _ _ := rfl

def operatorSlot : Slot Draft where
  name := "op"
  get := Draft.operator
  put d b := { d with operator := b }
  read := Node.readVariant .kept Operator.named
  get_put _ _ := rfl

def valueSlot : Slot Draft where
  name := "value"
  get := Draft.value
  put d b := { d with value := b }
  read := Node.readJson maxDepth
  get_put _ _ := rfl

theorem shape_slotted : shape.Slotted [fieldSlot, operatorSlot, valueSlot] where
  fields := rfl
  apart := by simp [Slot.apart_iff, fieldSlot, operatorSlot, valueSlot]

theorem stable_read : Stable 1 read :=
  (shape_slotted.stable_read (fun s _ => .zero s.read) .kept {}).bind _

end Condition

namespace FilterSpec

def termsSlot : Slot Draft where
  name := "terms"
  get := Draft.terms
  put d b := { d with terms := b }
  read := Node.readOptional Node.readString
  get_put _ _ := rfl

def fieldsSlot : Slot Draft where
  name := "fields"
  get := Draft.fields
  put d b := { d with fields := b }
  read := Node.readList Node.readString
  get_put _ _ := rfl

def allTextFieldsSlot : Slot Draft where
  name := "all_text_fields"
  get := Draft.allTextFields
  put d b := { d with allTextFields := b }
  read := Node.readBool
  get_put _ _ := rfl

def modeSlot : Slot Draft where
  name := "match"
  get := Draft.mode
  put d b := { d with mode := b }
  read := Node.readVariant .kept MatchMode.named
  get_put _ _ := rfl

def conditionsSlot : Slot Draft where
  name := "criteria"
  get := Draft.conditions
  put d b := { d with conditions := b }
  read := Node.readList Condition.read
  get_put _ _ := rfl

def slots : Tag → List (Slot Draft)
  | .field => [modeSlot, fieldsSlot, conditionsSlot]
  | .freeText => [termsSlot, fieldsSlot, allTextFieldsSlot, modeSlot, conditionsSlot]

theorem shape_slotted (tag : Tag) : (shape tag).Slotted (slots tag) where
  fields := by cases tag <;> rfl
  apart := by
    cases tag <;> simp [slots, Slot.apart_iff, termsSlot, fieldsSlot, allTextFieldsSlot, modeSlot,
      conditionsSlot]

theorem stable_slots (tag : Tag) : ∀ s ∈ slots tag, Stable 2 s.read := by
  have terms : Stable 2 termsSlot.read := .readOptionalString 2
  have fields : Stable 2 fieldsSlot.read := .readList (.readString 1)
  have allTextFields : Stable 2 allTextFieldsSlot.read := .readBool 2
  have mode : Stable 2 modeSlot.read := .readVariant 2 _
  have conditions : Stable 2 conditionsSlot.read := .readList Condition.stable_read
  cases tag <;> simp [slots, *]

/-- Whether a member says of which kind a filter is. -/
def isTag (m : Node × Node) : Bool := m.1.asString? = some "type"

theorem splitTag_eq_ok {known : Option Tag} {members others : List (Node × Node)} {tag : Tag} :
    splitTag known members = .ok (tag, others) ↔
      others = members.filter (!isTag ·) ∧
        (known = some tag ∧ members.filter isTag = [] ∨
          known = none ∧ ∃ m, members.filter isTag = [m] ∧ Tag.read m.2 = .ok tag) := by
  induction members generalizing known others with
  | nil => cases known <;> simp [splitTag, required, eq_comm, and_comm]
  | cons m members ih =>
    obtain ⟨key, value⟩ := m
    by_cases kind : key.asString? = some "type"
    · have isTag : isTag (key, value) = true := by simp [FilterSpec.isTag, kind]
      rw [splitTag, if_pos kind, bind_eq_ok, List.filter_cons_of_pos isTag,
        List.filter_cons_of_neg (by simp [isTag])]
      simp only [ih, once]
      cases known with
      | some _ => simp
      | none => cases read : Tag.read value <;> simp [read, and_comm]
    · have other : isTag (key, value) = false := by simp [isTag, kind]
      rw [splitTag, if_neg kind, bind_eq_ok, List.filter_cons_of_pos (by simp [other]),
        List.filter_cons_of_neg (by simp [other])]
      constructor
      · rintro ⟨⟨t, ms⟩, split, whole⟩
        obtain ⟨rfl, rfl⟩ := Prod.ext_iff.mp (pure_eq_ok.mp whole)
        obtain ⟨rfl, h⟩ := ih.mp split
        exact ⟨rfl, h⟩
      · rintro ⟨rfl, h⟩
        exact ⟨(tag, _), ih.mpr ⟨rfl, h⟩, rfl⟩

theorem filter_related {R : Node → Node → Prop} {members members' : List (Node × Node)}
    (related : List.Forall₂ (fun m m' => m.1 = m'.1 ∧ R m.2 m'.2) members members')
    {p : Node × Node → Bool} (h : ∀ m m' : Node × Node, m.1 = m'.1 → p m = p m') :
    List.Forall₂ (fun m m' => m.1 = m'.1 ∧ R m.2 m'.2) (members.filter p) (members'.filter p) :=
  List.rel_filter (fun m m' same => by simp only [h m m' same.1]) related

theorem stable_readTag (levels : Nat) : Stable levels Tag.read :=
  .of_scalar levels fun _ _ _ => ⟨nofun, nofun⟩

theorem stable_read : Stable 3 read := by
  intro n n' spec related ok
  cases related with
  | same => exact ok
  | @array items items' related =>
    cases related with
    | nil => exact ok
    | cons first others =>
      obtain ⟨tag, kind, ok⟩ := bind_eq_ok.mp ok
      obtain ⟨d, filled, ok⟩ := bind_eq_ok.mp ok
      exact bind_eq_ok.mpr ⟨tag, stable_readTag 2 _ _ _ first kind, bind_eq_ok.mpr
        ⟨d, (shape_slotted tag).readItems_congr (stable_slots tag) others filled, ok⟩⟩
  | @object members middle members' related order =>
    obtain ⟨⟨tag, others⟩, split, ok⟩ := bind_eq_ok.mp ok
    obtain ⟨d, filled, made⟩ := bind_eq_ok.mp ok
    -- The one member with the kind is found wherever it stands, and leaves the others in order.
    obtain ⟨rfl, impossible | ⟨_, m, found, kind⟩⟩ := splitTag_eq_ok.mp split
    · cases impossible.1
    · have tags : List.Forall₂ _ (members.filter isTag) (middle.filter isTag) :=
        filter_related related fun m m' same => by simp [isTag, same]
      rw [found] at tags
      obtain ⟨m', _, same, rest, found'⟩ := List.forall₂_cons_left_iff.mp tags
      cases rest
      have order' := found' ▸ (order.filter isTag).symm
      have kept : List.Forall₂ _ (members.filter (!isTag ·)) (middle.filter (!isTag ·)) :=
        filter_related related fun m m' same => by simp [isTag, same]
      refine bind_eq_ok.mpr ⟨(tag, members'.filter (!isTag ·)), splitTag_eq_ok.mpr ⟨rfl, .inr
        ⟨rfl, m', List.perm_singleton.mp order', stable_readTag 2 _ _ _ same.2 kind⟩⟩, ?_⟩
      exact bind_eq_ok.mpr ⟨d, (shape_slotted tag).readMembers_perm (order.filter _)
        ((shape_slotted tag).readMembers_congr (stable_slots tag) kept filled), made⟩

end FilterSpec

namespace Request

def entitySlot : Slot Draft where
  name := "entity"
  get := Draft.entity
  put d b := { d with entity := b }
  read := Node.readString
  get_put _ _ := rfl

def filtersSlot : Slot Draft where
  name := "filters"
  get := Draft.filters
  put d b := { d with filters := b }
  read := Node.readList FilterSpec.read
  get_put _ _ := rfl

theorem shape_slotted : shape.Slotted [entitySlot, filtersSlot] where
  fields := rfl
  apart := by simp [Slot.apart_iff, entitySlot, filtersSlot]

theorem stable_read : Stable 5 read := by
  have entity : Stable 4 entitySlot.read := .readString 4
  have filters : Stable 4 filtersSlot.read := .readList FilterSpec.stable_read
  exact (shape_slotted.stable_read (by simp [entity, filters]) .streamed {}).bind _

theorem ofText_eq_ok {text : String} {request : Request} :
    ofText text = .ok request ↔
      text.utf8ByteSize ≤ RequestFault.maxSize ∧ (Document.ofText text).value?.isSome ∧
        read (Document.ofText text).root = .ok request ∧
        request.filters.length ≤ RequestFault.maxFilters := by
  unfold ofText
  by_cases large : RequestFault.maxSize < text.utf8ByteSize
  · simp [large]
  · cases known : (Document.ofText text).value? with
    | none => simp [large, known]
    | some value =>
      cases spec : read (Document.ofText text).root with
      | error e => simp [large, known, spec]
      | ok request' =>
        have count : (if RequestFault.maxFilters < request'.filters.length then
              .error .tooManyFilters else .ok request' : Except RequestFault Request) =
            .ok request ↔
            request' = request ∧ request.filters.length ≤ RequestFault.maxFilters := by
          split
          · simp only [reduceCtorEq, false_iff]
            rintro ⟨rfl, few⟩
            omega
          · simp only [Except.ok.injEq, iff_self_and]
            rintro rfl
            omega
        simpa [large, known, spec, Nat.not_lt.mp large] using count

/-- Two texts of one size whose members come in another order spell one request. -/
theorem ofText_congr {text text' : String} {request : Request}
    (size : text'.utf8ByteSize = text.utf8ByteSize)
    (trailing : (Document.ofText text').trailing = (Document.ofText text).trailing)
    (related : Node.Reordered 5 (Document.ofText text).root (Document.ofText text').root)
    (ok : ofText text = .ok request) : ofText text' = .ok request := by
  rw [ofText_eq_ok] at ok ⊢
  obtain ⟨small, value, read, few⟩ := ok
  refine ⟨by omega, ?_, stable_read _ _ _ related read, few⟩
  rwa [Document.value?_isSome, trailing, ← related.value?_isSome_eq, ← Document.value?_isSome]

end Request

/-- The order of keys in a request is free.  An accepted text is the text of a layout, and however
the members of its objects are reordered, the text then is as long, in characters and in bytes, is
accepted with the same entity and the same filters, and compiles alike.  Five levels go down to the
conditions: the request, its list of filters, a filter, its list of conditions, and a condition.
The value of a condition lies below, and stays as it is. -/
theorem key_order_immaterial {c : Catalog} {text : String} {parsed : ParsedRequest}
    (accepted : c.parseRequest text = .ok parsed) :
    (∃ (l : Layout) (after : Gap), text = l.spell after) ∧
    ∀ (l l' : Layout) (after : Gap), text = l.spell after → l.Reordered 5 l' →
      (l'.spell after).length = text.length ∧
      (l'.spell after).utf8ByteSize = text.utf8ByteSize ∧
      c.parseRequest (l'.spell after) = .ok parsed ∧
      ∀ d stem, c.compileRequest (l'.spell after) d stem = c.compileRequest text d stem := by
  obtain ⟨request, read, ok⟩ := bind_eq_ok.mp accepted
  rw [mapError_eq_ok] at read
  have whole : (Document.ofText text).trailing = false := by
    obtain ⟨-, value, -⟩ := Request.ofText_eq_ok.mp read
    rw [Document.value?_isSome, Bool.and_eq_true, Bool.not_eq_true'] at value
    exact value.1
  refine ⟨Layout.exists_spell whole, ?_⟩
  rintro l l' after rfl reordered
  have read' : Request.ofText (l'.spell after) = .ok request := by
    refine Request.ofText_congr (reordered.utf8ByteSize_spell after) ?_ ?_ read
    · rw [l.ofText_spell, l'.ofText_spell]
    · rw [l.ofText_spell, l'.ofText_spell]
      exact reordered.node
  have same : c.parseRequest (l'.spell after) = .ok parsed :=
    bind_eq_ok.mpr ⟨request, mapError_eq_ok.mpr read', ok⟩
  refine ⟨reordered.length_spell after, reordered.utf8ByteSize_spell after, same,
    fun d stem => ?_⟩
  rw [Catalog.compileRequest, Catalog.compileRequest, same, accepted]

/-- A request, its filter and its condition with their keys from the last to the first. -/
theorem key_order_immaterial_reversed :
    ∃ (c : Catalog) (text text' : String) (parsed : ParsedRequest),
      text = "\x7b\"filters\":[\x7b\"note\":\"old\",\"criteria\":" ++
        "[\x7b\"op\":\"is null\",\"field\":\"Age\"\x7d],\"type\":\"field\"\x7d]," ++
        "\"entity\":\"Widget\"\x7d" ∧
      text' = "\x7b\"entity\":\"Widget\",\"filters\":[\x7b\"type\":\"field\"," ++
        "\"criteria\":[\x7b\"field\":\"Age\",\"op\":\"is null\"\x7d],\"note\":\"old\"\x7d]\x7d" ∧
      c.parseRequest text = .ok parsed ∧ c.parseRequest text' = .ok parsed ∧
      c.compileRequest text' .sqlite "p" =
        .ok ⟨"SELECT * FROM \"widgets\" WHERE \"age\" IS NULL", []⟩ := by
  have condition : Layout.Reordered 1
      (.record [(.mk "op", .word (.mk "is null")), (.mk "field", .word (.mk "Age"))])
      (.record [(.mk "field", .word (.mk "Age")), (.mk "op", .word (.mk "is null"))]) :=
    .record (.cons ⟨rfl, rfl⟩ (.cons ⟨rfl, rfl⟩ .nil)) (.swap _ _ _)
  have filter : ∀ l l', Layout.Reordered 1 l l' → Layout.Reordered 3
      (.record [(.mk "note", .word (.mk "old")), (.mk "criteria", .list [l]),
        (.mk "type", .word (.mk "field"))])
      (.record [(.mk "type", .word (.mk "field")), (.mk "criteria", .list [l']),
        (.mk "note", .word (.mk "old"))]) := fun l l' h =>
    .record (.cons ⟨rfl, .refl _ _⟩ (.cons (b := (_, .list [l'])) ⟨rfl, .list (.cons h .nil)⟩
      (.cons ⟨rfl, .refl _ _⟩ .nil))) (List.reverse_perm _).symm
  have request : ∀ l l', Layout.Reordered 3 l l' → Layout.Reordered 5
      (.record [(.mk "filters", .list [l]), (.mk "entity", .word (.mk "Widget"))])
      (.record [(.mk "entity", .word (.mk "Widget")), (.mk "filters", .list [l'])]) :=
    fun l l' h => .record (.cons (b := (_, .list [l'])) ⟨rfl, .list (.cons h .nil)⟩
      (.cons ⟨rfl, .refl _ _⟩ .nil)) (.swap _ _ _)
  have compiled : Catalog.compileRequest ⟨[⟨"Widget", "widgets", [⟨"Age", "age", .integer⟩]⟩]⟩
      ("\x7b\"filters\":[\x7b\"note\":\"old\",\"criteria\":" ++
        "[\x7b\"op\":\"is null\",\"field\":\"Age\"\x7d],\"type\":\"field\"\x7d]," ++
        "\"entity\":\"Widget\"\x7d")
      .sqlite "p" = .ok ⟨"SELECT * FROM \"widgets\" WHERE \"age\" IS NULL", []⟩ := by
    decide +kernel
  obtain ⟨parsed, _, accepted, -⟩ := Catalog.of_compileRequest_eq_ok compiled
  obtain ⟨-, -, same, compiles⟩ :=
    (key_order_immaterial accepted).2 _ _ .empty (by decide +kernel)
      (request _ _ (filter _ _ condition))
  refine ⟨_, _, _, parsed, rfl, ?_, accepted, same, (compiles _ _).trans compiled⟩
  decide +kernel

end EntityFilter
