import EntityFilter.Json.Literal
import Mathlib.Data.List.TakeWhile

/-!
Literals end where they end: what a reader took of a text as a literal it takes of any other text
that starts with it, unless the literal can go on there.
-/

namespace EntityFilter.Json

/-- The text ends, or goes on with a character of which `p` holds. -/
def Ends (p : Char → Prop) (rest : List Char) : Prop := ∀ c ∈ rest.head?, p c

theorem Ends.mono {p q : Char → Prop} {rest : List Char} (h : Ends p rest)
    (weaker : ∀ c, p c → q c) : Ends q rest :=
  fun c hc => weaker c (h c hc)

theorem Ends.append {p : Char → Prop} {front rest : List Char} (h : Ends p front)
    (h' : Ends p rest) : Ends p (front ++ rest) := by
  cases front with
  | nil => exact h'
  | cons c cs => exact h

/-- A reader takes `front` for `a` in every text that goes on with a character of which `p`
holds. -/
def Takes {α : Type} (read : List Char → Option (α × List Char)) (p : Char → Prop) (a : α)
    (front : List Char) : Prop :=
  ∀ rest, Ends p rest → read (front ++ rest) = some (a, rest)

theorem spanDigits_append {ds rest : List Char} (digits : ∀ c ∈ ds, c.isDigit)
    (ends : Ends (·.isDigit = false) rest) : Text.spanDigits none (ds ++ rest) = (ds, rest) := by
  have nothing : rest.takeWhile Char.isDigit = [] := by
    cases rest with
    | nil => rfl
    | cons c cs => simp [ends c rfl]
  simp [Text.spanDigits, List.takeWhile_append_of_pos digits, nothing]

theorem exists_of_spanDigits {cs ds rest : List Char} (h : Text.spanDigits none cs = (ds, rest)) :
    cs = ds ++ rest ∧ ∀ c ∈ ds, c.isDigit := by
  obtain ⟨rfl, rfl⟩ := Prod.ext_iff.mp h
  refine ⟨?_, fun c hc => List.mem_takeWhile_imp hc⟩
  exact (List.prefix_iff_eq_append.mp (cs.takeWhile_prefix Char.isDigit)).symm

namespace NumberLiteral

theorem readFraction?_of_ends {rest : List Char} (ends : Ends (· ≠ '.') rest) :
    readFraction? rest = some (none, rest) := by
  unfold readFraction?
  split
  · exact absurd rfl (ends '.' rfl)
  · rfl

theorem exists_of_readFraction? {cs rest : List Char} {fraction : Option (List Char)}
    (h : readFraction? cs = some (fraction, rest)) :
    ∃ front, cs = front ++ rest ∧ Ends (· = '.') front ∧
      Takes readFraction? (fun c => c.isDigit = false ∧ c ≠ '.') fraction front := by
  fun_cases readFraction? cs with
  | case1 => simp_all [readFraction?]
  | case2 cs ds rest' span present =>
    obtain ⟨rfl, rfl⟩ : some ds = fraction ∧ rest' = rest := by
      simpa [readFraction?, span, present] using h
    obtain ⟨rfl, digits⟩ := exists_of_spanDigits span
    refine ⟨'.' :: ds, rfl, by simp [Ends], ?_⟩
    intro rest ends
    simp [readFraction?, spanDigits_append digits (ends.mono fun _ h => h.1), present]
  | case3 cs noPoint =>
    obtain ⟨rfl, rfl⟩ : none = fraction ∧ cs = rest := by simpa [readFraction?] using h
    exact ⟨[], rfl, nofun, fun rest ends => readFraction?_of_ends (ends.mono fun _ h => h.2)⟩

theorem readExponent?_of_ends {rest : List Char} (ends : Ends (fun c => c ≠ 'e' ∧ c ≠ 'E') rest) :
    readExponent? rest = some (none, rest) := by
  cases rest with
  | nil => rfl
  | cons c cs => simp [readExponent?, ends c rfl]

theorem exists_of_readNumber? {cs rest : List Char} {n : Nat}
    (h : Text.readNumber? none cs = some (n, rest)) :
    ∃ front, cs = front ++ rest ∧ front ≠ [] ∧ (∀ c ∈ front, c.isDigit) ∧
      Takes (Text.readNumber? none) (·.isDigit = false) n front := by
  unfold Text.readNumber? at h
  cases span : Text.spanDigits none cs with
  | mk ds rest' =>
    obtain ⟨present, rfl, rfl⟩ : ds ≠ [] ∧ Text.digitsValue ds = n ∧ rest' = rest := by
      simpa [span] using h
    obtain ⟨rfl, digits⟩ := exists_of_spanDigits span
    refine ⟨ds, rfl, present, digits, fun rest ends => ?_⟩
    simp [Text.readNumber?, spanDigits_append digits ends, present]

theorem exists_of_readExponent? {cs rest : List Char} {exponent : Option Int}
    (h : readExponent? cs = some (exponent, rest)) :
    ∃ front, cs = front ++ rest ∧ Ends (fun c => c = 'e' ∨ c = 'E') front ∧
      Takes readExponent? (fun c => c.isDigit = false ∧ c ≠ 'e' ∧ c ≠ 'E') exponent front := by
  fun_cases readExponent? cs with
  | case1 c cs mark negative cs' sign =>
    obtain ⟨n, read, rfl⟩ : ∃ n, Text.readNumber? none cs' = some (n, rest) ∧
        some (if negative then -(n : Int) else n) = exponent := by
      simpa [readExponent?, mark, sign] using h
    obtain ⟨front, spelled, present, digits, takes⟩ := exists_of_readNumber? read
    split at sign <;> cases sign <;> subst spelled
    · refine ⟨c :: '+' :: front, rfl, by simpa [Ends] using mark, fun rest ends => ?_⟩
      simp [readExponent?, mark, takes rest (ends.mono fun _ h => h.1)]
    · refine ⟨c :: '-' :: front, rfl, by simpa [Ends] using mark, fun rest ends => ?_⟩
      simp [readExponent?, mark, takes rest (ends.mono fun _ h => h.1)]
    · refine ⟨c :: front, rfl, by simpa [Ends] using mark, fun rest ends => ?_⟩
      obtain ⟨d, ds, rfl⟩ := List.exists_cons_of_ne_nil present
      have digit : d.isDigit := digits d List.mem_cons_self
      have plus : d ≠ '+' := by rintro rfl; simp at digit
      have minus : d ≠ '-' := by rintro rfl; simp at digit
      have again := takes rest (ends.mono fun _ h => h.1)
      simp_all [readExponent?]
  | case2 c cs mark =>
    obtain ⟨rfl, rfl⟩ : none = exponent ∧ c :: cs = rest := by simpa [readExponent?, mark] using h
    exact ⟨[], rfl, nofun, fun rest ends => readExponent?_of_ends (ends.mono fun _ h => h.2)⟩
  | case3 =>
    obtain ⟨rfl, rfl⟩ : none = exponent ∧ [] = rest := by simpa [readExponent?] using h
    exact ⟨[], rfl, nofun, fun rest ends => readExponent?_of_ends (ends.mono fun _ h => h.2)⟩

/-- Characters that cannot continue a number. -/
def Foreign (c : Char) : Prop := c.isDigit = false ∧ c ≠ '.' ∧ c ≠ 'e' ∧ c ≠ 'E'

theorem exists_of_read? {cs rest : List Char} {literal : NumberLiteral}
    (h : read? cs = some (literal, rest)) :
    ∃ front, cs = front ++ rest ∧ front ≠ [] ∧ Takes read? Foreign literal front := by
  fun_cases read? cs with
  | case1 negative cs' sign whole rest₁ span improper =>
    simp only [read?, sign, span, if_pos improper] at h
    cases h
  | case2 negative cs' sign whole rest₁ span proper =>
    simp only [read?, sign, span, if_neg proper] at h
    obtain ⟨fraction, rest₂, point, exponent, power, rfl⟩ :
        ∃ fraction rest₂, readFraction? rest₁ = some (fraction, rest₂) ∧
          ∃ exponent, readExponent? rest₂ = some (exponent, rest) ∧
            ⟨negative, whole, fraction, exponent⟩ = literal := by
      simpa [Option.bind_eq_some_iff] using h
    obtain ⟨present, short⟩ : whole ≠ [] ∧ (whole.head? = some '0' → whole.length ≤ 1) := by
      simpa using proper
    obtain ⟨spelled, digits⟩ := exists_of_spanDigits span
    obtain ⟨front₁, rfl, head₁, takes₁⟩ := exists_of_readFraction? point
    obtain ⟨front₂, rfl, head₂, takes₂⟩ := exists_of_readExponent? power
    have unsigned : ∀ rest, Ends Foreign rest →
        Text.spanDigits none (whole ++ (front₁ ++ (front₂ ++ rest))) =
          (whole, front₁ ++ (front₂ ++ rest)) ∧
        readFraction? (front₁ ++ (front₂ ++ rest)) = some (fraction, front₂ ++ rest) ∧
        readExponent? (front₂ ++ rest) = some (exponent, rest) := by
      intro rest ends
      have ends₂ : Ends (fun c => c.isDigit = false ∧ c ≠ '.') (front₂ ++ rest) :=
        (head₂.mono (by rintro c (rfl | rfl) <;> decide)).append
          (ends.mono fun c h => ⟨h.1, h.2.1⟩)
      have ends₁ : Ends (·.isDigit = false) (front₁ ++ (front₂ ++ rest)) :=
        (head₁.mono (by rintro c rfl; decide)).append (ends₂.mono fun c h => h.1)
      exact ⟨spanDigits_append digits ends₁, takes₁ _ ends₂,
        takes₂ _ (ends.mono fun c h => ⟨h.1, h.2.2⟩)⟩
    split at sign <;> cases sign <;> subst spelled
    · refine ⟨'-' :: (whole ++ (front₁ ++ front₂)), by simp, by simp, fun rest ends => ?_⟩
      obtain ⟨span, point, power⟩ := unsigned rest ends
      simpa [read?, span, point, power, present] using short
    · refine ⟨whole ++ (front₁ ++ front₂), by simp, by simp [present], fun rest ends => ?_⟩
      obtain ⟨span, point, power⟩ := unsigned rest ends
      obtain ⟨d, ds, rfl⟩ := List.exists_cons_of_ne_nil present
      have digit : d.isDigit := digits d List.mem_cons_self
      have minus : d ≠ '-' := by rintro rfl; simp at digit
      simp only [List.cons_append, List.append_assoc] at span ⊢
      simpa [read?, span, point, power, minus] using short

end NumberLiteral

namespace StringPart

/-- A string ends at its closing quote, whatever follows. -/
theorem exists_of_readAll? {cs rest : List Char} {parts : List StringPart}
    (h : readAll? cs = some (parts, rest)) :
    ∃ front, cs = front ++ rest ∧ Takes readAll? (fun _ => True) parts front := by
  induction cs using readAll?.induct generalizing parts with
  | case1 => cases h
  | case2 rest =>
    cases h
    exact ⟨['"'], rfl, fun rest _ => rfl⟩
  | case3 a b c d cs ih =>
    obtain ⟨part, unit, parts, read, rfl⟩ : ∃ part, unit? a b c d = some part ∧
        ∃ parts', readAll? cs = some (parts', rest) ∧ part :: parts' = parts := by
      simpa [readAll?, Option.bind_eq_some_iff] using h
    obtain ⟨front, rfl, takes⟩ := ih read
    refine ⟨'\\' :: 'u' :: a :: b :: c :: d :: front, rfl, fun rest ends => ?_⟩
    simp [readAll?, unit, takes rest ends]
  | case4 e cs noUnit ih =>
    obtain ⟨c, escape, parts, read, rfl⟩ : ∃ c, ofEscape? e = some c ∧
        ∃ parts', readAll? cs = some (parts', rest) ∧ .char c :: parts' = parts := by
      simpa [readAll?, noUnit, Option.bind_eq_some_iff] using h
    obtain ⟨front, rfl, takes⟩ := ih read
    have short : e ≠ 'u' := by
      rintro rfl
      simp [ofEscape?] at escape
    refine ⟨'\\' :: e :: front, rfl, fun rest ends => ?_⟩
    simp [readAll?, short, escape, takes rest ends]
  | case5 c cs _ _ _ bad =>
    simp [readAll?, bad] at h
  | case6 c cs noQuote _ noEscape plain ih =>
    obtain ⟨parts, read, rfl⟩ :
        ∃ parts', readAll? cs = some (parts', rest) ∧ .char c :: parts' = parts := by
      simpa [readAll?, noQuote, noEscape, plain, Option.bind_eq_some_iff] using h
    obtain ⟨front, rfl, takes⟩ := ih read
    refine ⟨c :: front, rfl, fun rest ends => ?_⟩
    simp [readAll?, not_or.mp plain, takes rest ends]

end StringPart
end EntityFilter.Json
