import EntityFilter.Json.Printer
import EntityFilter.Proofs.Digits
import EntityFilter.Proofs.Json.Layout

/-!
The text that is written for a scalar is read as that scalar: null, booleans, integers of 64 bits,
and strings with their escapes.
-/

namespace EntityFilter.Json

namespace StringPart

theorem hexValue?_hexDigit {n : Nat} (h : n < 16) : hexValue? (hexDigit n) = some n := by
  have all : ∀ k : Fin 16, hexValue? (hexDigit k) = some k.val := by decide
  exact all ⟨n, h⟩

/-- A character is written as a short escape, by its number, or as it is. -/
theorem escapeChar_cases (c : Char) :
    (∃ e, e ≠ 'u' ∧ ofEscape? e = some c ∧ escapeChar c = ['\\', e]) ∨
      (c.toNat < 32 ∧ escapeChar c =
        ['\\', 'u', '0', '0', hexDigit (c.toNat / 16), hexDigit (c.toNat % 16)]) ∨
      (c ≠ '"' ∧ c ≠ '\\' ∧ 32 ≤ c.toNat ∧ escapeChar c = [c]) := by
  by_cases short : c = '"' ∨ c = '\\' ∨ c = Char.ofNat 8 ∨ c = Char.ofNat 12 ∨ c = '\n' ∨
      c = '\r' ∨ c = '\t'
  · rcases short with rfl | rfl | rfl | rfl | rfl | rfl | rfl
    · exact .inl ⟨'"', by decide, rfl, rfl⟩
    · exact .inl ⟨'\\', by decide, rfl, rfl⟩
    · exact .inl ⟨'b', by decide, rfl, rfl⟩
    · exact .inl ⟨'f', by decide, rfl, rfl⟩
    · exact .inl ⟨'n', by decide, rfl, rfl⟩
    · exact .inl ⟨'r', by decide, rfl, rfl⟩
    · exact .inl ⟨'t', by decide, rfl, rfl⟩
  · simp only [not_or] at short
    by_cases control : c.toNat < 32
    · exact .inr (.inl ⟨control, by simp [escapeChar, short, control]⟩)
    · exact .inr (.inr ⟨short.1, short.2.1, Nat.not_lt.mp control,
        by simp [escapeChar, short, control]⟩)

/-- What stands for a character in a string is read as one part, which gives that character. -/
theorem exists_part (c : Char) :
    ∃ part, (∀ cs, readAll? (escapeChar c ++ cs) =
        (readAll? cs).map fun (parts, rest) => (part :: parts, rest)) ∧
      ∀ parts, assemble? (part :: parts) = (assemble? parts).map (c :: ·) := by
  obtain ⟨e, notUnit, escape, written⟩ | ⟨control, written⟩ |
    ⟨noQuote, noEscape, ordinary, written⟩ := escapeChar_cases c
  · refine ⟨.char c, fun cs => ?_, fun parts => by simp [assemble?]⟩
    rw [written]
    cases read : readAll? cs <;> simp [readAll?, notUnit, escape, read]
  · have high := hexValue?_hexDigit (n := c.toNat / 16) (by omega)
    have low := hexValue?_hexDigit (n := c.toNat % 16) (Nat.mod_lt _ (by decide))
    have zero : hexValue? '0' = some 0 := rfl
    have number : 4096 * 0 + 256 * 0 + 16 * (c.toNat / 16) + c.toNat % 16 = c.toNat := by omega
    have unit : unit? '0' '0' (hexDigit (c.toNat / 16)) (hexDigit (c.toNat % 16)) =
        some (.unit c.toNat) := by
      simp only [unit?, zero, high, low, Option.bind_eq_bind, Option.bind_some, number]
      rfl
    have notHigh : isHigh c.toNat = false := by simp [isHigh]; omega
    have notLow : isLow c.toNat = false := by simp [isLow]; omega
    refine ⟨.unit c.toNat, fun cs => ?_, fun parts => ?_⟩
    · rw [written]
      cases read : readAll? cs <;> simp [readAll?, unit, read]
    · cases parts with
      | nil => simp [assemble?, notHigh, notLow]
      | cons p ps => cases p <;> simp [assemble?, notHigh, notLow]
  · refine ⟨.char c, fun cs => ?_, fun parts => by simp [assemble?]⟩
    rw [written]
    cases read : readAll? cs <;> simp [readAll?, noEscape, Nat.not_lt.mpr ordinary, read]

theorem readAll?_write (cs rest : List Char) :
    ∃ parts, readAll? (cs.flatMap escapeChar ++ '"' :: rest) = some (parts, rest) ∧
      assemble? parts = some cs := by
  induction cs with
  | nil => exact ⟨[], rfl, rfl⟩
  | cons c cs ih =>
    obtain ⟨parts, read, whole⟩ := ih
    obtain ⟨part, first, again⟩ := exists_part c
    refine ⟨part :: parts, ?_, ?_⟩
    · rw [List.flatMap_cons, List.append_assoc, first, read]
      rfl
    · rw [again, whole]
      rfl

end StringPart

namespace NumberLiteral

/-- The numeral of a number of several digits does not start with zero. -/
theorem head?_toDigits {n : Nat} (several : 1 < (Nat.toDigits 10 n).length) :
    (Nat.toDigits 10 n).head? ≠ some '0' := by
  intro zero
  obtain ⟨ds, spelled⟩ := List.head?_eq_some_iff.mp zero
  have others : ∀ c ∈ ds, c.isDigit := fun c member =>
    Text.isDigit_of_mem_toDigits (spelled ▸ List.mem_cons_of_mem _ member)
  have value : n = Text.digitsValue ds := by
    rw [← Text.digitsValue_toDigits n, spelled]
    rfl
  rw [spelled, List.length_cons] at several
  have shorter := (Nat.length_toDigits_le_iff (b := 10) (by decide) (by omega)).mpr
    (value ▸ Text.digitsValue_lt others)
  rw [spelled, List.length_cons] at shorter
  omega

theorem read?_toDigits (n : Nat) {rest : List Char} (ends : Ends Foreign rest) :
    read? (Nat.toDigits 10 n ++ rest) = some (⟨false, Nat.toDigits 10 n, none, none⟩, rest) ∧
      read? ('-' :: (Nat.toDigits 10 n ++ rest)) =
        some (⟨true, Nat.toDigits 10 n, none, none⟩, rest) := by
  have whole := spanDigits_append (fun c => Text.isDigit_of_mem_toDigits (n := n))
    (ends.mono fun _ h => h.1)
  have fraction := readFraction?_of_ends (ends.mono fun _ h => h.2.1)
  have exponent := readExponent?_of_ends (ends.mono fun _ h => h.2.2)
  have proper : ¬((Nat.toDigits 10 n).isEmpty = true ∨
      (Nat.toDigits 10 n).head? = some '0' ∧ 1 < (Nat.toDigits 10 n).length) := by
    rintro (empty | ⟨zero, several⟩)
    · exact Nat.toDigits_ne_nil (List.isEmpty_iff.mp empty)
    · exact head?_toDigits several zero
  constructor
  · obtain ⟨c, ds, spelled⟩ := List.exists_cons_of_ne_nil (Nat.toDigits_ne_nil (b := 10) (n := n))
    have digit : c.isDigit := Text.isDigit_of_mem_toDigits (spelled ▸ List.mem_cons_self)
    have minus : c ≠ '-' := by
      rintro rfl
      cases digit
    rw [spelled] at whole proper ⊢
    rw [List.cons_append] at whole ⊢
    simpa [read?, whole, fraction, exponent, minus] using proper
  · simp only [read?, whole, if_neg proper, fraction, exponent, Option.bind_eq_bind,
      Option.bind_some]

theorem value?_integer {i : Int} (low : -9223372036854775808 ≤ i)
    (high : i < 18446744073709551616) :
    value? ⟨decide (i < 0), Nat.toDigits 10 i.natAbs, none, none⟩ = some (.integer i) := by
  have lowest : Nat.pow 2 63 = 9223372036854775808 := rfl
  have bound : Nat.pow 2 64 = 18446744073709551616 := rfl
  simp only [value?, Text.digitsValue_toDigits, Option.isNone_none, decide_eq_false_iff_not,
    decide_eq_true_eq, true_and]
  by_cases negative : i < 0
  · have small : ¬(¬i < 0 ∧ i.natAbs < Nat.pow 2 64) := by omega
    rw [if_neg small, if_pos (by omega)]
    congr 2
    omega
  · rw [if_pos (by omega)]
    congr 2
    omega

theorem toList_numeral (i : Int) : (toString i).toList =
    if i < 0 then '-' :: Nat.toDigits 10 i.natAbs else Nat.toDigits 10 i.natAbs := by
  rw [Int.toString_eq_repr]
  cases i with
  | ofNat n => simp [Int.repr]
  | negSucc n => simp [Int.repr, Int.negSucc_lt_zero]

theorem read?_numeral (i : Int) {rest : List Char} (ends : Ends Foreign rest) :
    read? ((toString i).toList ++ rest) =
      some (⟨decide (i < 0), Nat.toDigits 10 i.natAbs, none, none⟩, rest) := by
  obtain ⟨unsigned, signed⟩ := read?_toDigits i.natAbs ends
  rw [toList_numeral]
  split
  · rename_i negative
    simpa [negative] using signed
  · rename_i positive
    simpa [positive] using unsigned

end NumberLiteral

/-- Null, a boolean, a string, or an integer of 64 bits. -/
inductive Scalar : Json → Prop
  | null : Scalar .null
  | bool (b : Bool) : Scalar (.bool b)
  | string (s : String) : Scalar (.string s)
  | integer {i : Int} (low : -9223372036854775808 ≤ i) (high : i < 18446744073709551616) :
      Scalar (.number (.integer i))

/-- What is read at the front of a text that starts with a value: a node with that value. -/
theorem Scalar.exists_scan {j : Json} (h : j.Scalar) :
    ∃ n : Node, n.value? maxDepth = some j ∧ ∀ fuel rest, Delimited rest →
      Node.scan (fuel + 1) (j.write ++ rest) = (n, some rest) := by
  cases h with
  | null => exact ⟨.null, rfl, fun fuel rest _ => rfl⟩
  | bool b =>
    cases b with
    | true => exact ⟨.bool true, rfl, fun fuel rest _ => rfl⟩
    | false => exact ⟨.bool false, rfl, fun fuel rest _ => rfl⟩
  | string s =>
    refine ⟨.string s, rfl, fun fuel rest _ => ?_⟩
    obtain ⟨parts, read, whole⟩ := StringPart.readAll?_write s.toList rest
    simp [write, writeString, Node.scan, isSpace, Node.scanString, read, whole]
  | @integer i low high =>
    refine ⟨.number (.integer i), rfl, fun fuel rest ends => ?_⟩
    obtain ⟨c, cs, spelled, first⟩ : ∃ c cs, (toString i).toList = c :: cs ∧
        (c = '-' ∨ c.isDigit = true) := by
      rw [NumberLiteral.toList_numeral]
      split
      · exact ⟨_, _, rfl, .inl rfl⟩
      · obtain ⟨c, cs, spelled⟩ :=
          List.exists_cons_of_ne_nil (Nat.toDigits_ne_nil (b := 10) (n := i.natAbs))
        exact ⟨c, cs, spelled, .inr (Text.isDigit_of_mem_toDigits (spelled ▸ List.mem_cons_self))⟩
    have read := NumberLiteral.read?_numeral i ends.foreign
    rw [spelled, List.cons_append] at read
    have written : (number (.integer i)).write = c :: cs := by
      rw [write, Number.write, spelled]
    have other : isSpace c = false ∧ c ≠ '"' ∧ c ≠ '[' ∧ c ≠ '\x7b' := by
      rcases first with rfl | digit
      · decide
      · have apart : ∀ d : Char, d.isDigit = false → c ≠ d := by
          rintro d noDigit rfl
          cases digit.symm.trans noDigit
        simp [isSpace, apart]
    rw [written, List.cons_append, Node.scan_scalar other.1 other.2.1 other.2.2.1 other.2.2.2,
      if_pos first, Node.scanNumber]
    simp only [read, NumberLiteral.value?_integer low high]

/-- The text of a scalar is read as that scalar. -/
theorem Scalar.value?_ofText {j : Json} (h : j.Scalar) :
    (Document.ofText j.compact).value? = some j := by
  obtain ⟨n, value, scanned⟩ := h.exists_scan
  have read := Layout.ofText_spell (.token ⟨j.write, n, scanned⟩) .empty
  simp only [Layout.spell, Layout.text, Gap.empty, List.append_nil, Layout.node] at read
  rw [compact, read]
  exact value

end EntityFilter.Json
