import EntityFilter.Dialect.Basic
import Mathlib.Logic.Function.Defs

/-!
Reading quoted identifiers back.  A scanner takes a closing quote that is written twice for a
character of the name, and stops at the first one that is not.
-/

namespace EntityFilter

namespace Quoting

/-- The name up to its closing quote, and what stands behind that quote. -/
def scanName? (q : Quoting) : List Char → Option (List Char × List Char)
  | [] => none
  | c :: cs =>
    if c = q.closing then
      match cs with
      | [] => some ([], [])
      | c' :: rest =>
        if c' = q.closing then (q.scanName? rest).map fun r => (c :: r.1, r.2)
        else some ([], c' :: rest)
    else (q.scanName? cs).map fun r => (c :: r.1, r.2)

def scan? (q : Quoting) : List Char → Option (List Char × List Char)
  | [] => none
  | c :: cs => if c = q.opening then q.scanName? cs else none

/-- Reads the quoted name that a text begins with; the answer has the rest of the text too. -/
def read? (q : Quoting) (text : String) : Option (String × String) :=
  (q.scan? text.toList).map fun r => (String.ofList r.1, String.ofList r.2)

variable {q : Quoting} {name rest cs : List Char}

theorem scanName?_closing (h : rest.head? ≠ some q.closing) :
    q.scanName? (q.closing :: rest) = some ([], rest) := by
  cases rest with
  | nil => simp [scanName?]
  | cons c rest =>
    have other : c ≠ q.closing := by simpa using h
    simp [scanName?, other]

/-- What is written for a character is read as that character. -/
theorem scanName?_writeChar (c : Char) (cs : List Char) :
    q.scanName? (q.writeChar c ++ cs) = (q.scanName? cs).map fun r => (c :: r.1, r.2) := by
  by_cases hc : c = q.closing
  · rw [writeChar, if_pos hc]
    simp [scanName?, hc]
  · rw [writeChar, if_neg hc, List.singleton_append, scanName?.eq_def]
    simp only [hc, if_false]

theorem scanName?_flatMap (name : List Char) (h : rest.head? ≠ some q.closing) :
    q.scanName? (name.flatMap q.writeChar ++ q.closing :: rest) = some (name, rest) := by
  induction name with
  | nil => exact scanName?_closing h
  | cons c name ih =>
    rw [List.flatMap_cons, List.append_assoc, scanName?_writeChar, ih]
    rfl

/-- Only the written form of a name is read as the name. -/
theorem of_scanName?_eq_some (h : q.scanName? cs = some (name, rest)) :
    cs = name.flatMap q.writeChar ++ q.closing :: rest ∧ rest.head? ≠ some q.closing := by
  fun_induction scanName? q cs generalizing name with
  | case1 => cases h
  | case2 =>
    cases h
    simp
  | case3 others ih =>
    obtain ⟨⟨name', rest'⟩, read, same⟩ := Option.map_eq_some_iff.mp h
    cases same
    obtain ⟨rfl, stops⟩ := ih read
    simp [writeChar, stops]
  | case4 c' others other =>
    cases h
    simp [other]
  | case5 c cs other ih =>
    obtain ⟨⟨name', rest'⟩, read, same⟩ := Option.map_eq_some_iff.mp h
    cases same
    obtain ⟨rfl, stops⟩ := ih read
    simp [writeChar, other, stops]

theorem scan?_eq_some_iff :
    q.scan? cs = some (name, rest) ↔
      cs = q.writeChars name ++ rest ∧ rest.head? ≠ some q.closing := by
  constructor
  · intro h
    cases cs with
    | nil => cases h
    | cons c cs =>
      rw [scan?] at h
      split at h
      · rename_i opens
        obtain ⟨rfl, stops⟩ := of_scanName?_eq_some h
        simp [writeChars, opens, stops]
      · cases h
  · rintro ⟨rfl, stops⟩
    rw [writeChars, List.append_assoc, List.cons_append, scan?, if_pos rfl]
    exact scanName?_flatMap name stops

theorem read?_eq_some_iff {text name rest : String} :
    q.read? text = some (name, rest) ↔
      text = q.write name ++ rest ∧ rest.toList.head? ≠ some q.closing := by
  have chars : text = q.write name ++ rest ↔
      text.toList = q.writeChars name.toList ++ rest.toList := by
    rw [← String.toList_inj, String.toList_append, write, String.toList_ofList]
  rw [chars, ← scan?_eq_some_iff, read?, Option.map_eq_some_iff]
  constructor
  · rintro ⟨⟨name', rest'⟩, read, same⟩
    cases same
    simpa using read
  · intro read
    exact ⟨_, read, by simp⟩

end Quoting

/-- A scanner reads a quoted name back as exactly that name and stops behind it, when no closing
quote follows; and it reads nothing but quoted names.  So names are told apart by how they are
quoted, and none ends its quoting before its own closing quote. -/
theorem identifier_reads_back (d : Dialect) :
    (∀ text name rest : String, d.quoting.read? text = some (name, rest) ↔
      text = d.identifier name ++ rest ∧ rest.toList.head? ≠ some d.quoting.closing) ∧
    Function.Injective d.identifier := by
  refine ⟨fun text name rest => Quoting.read?_eq_some_iff, fun a b same => ?_⟩
  have read (name : String) : d.quoting.read? (d.identifier name) = some (name, "") :=
    Quoting.read?_eq_some_iff.mpr ⟨String.append_empty.symm, by simp⟩
  have left := read a
  rw [same, read b] at left
  cases left
  rfl

/-- A name that is a quote, then the beginning of another statement. -/
example : Dialect.mssql.quoting.read? "[]]; DROP]] x] = 1" = some ("]; DROP] x", " = 1") := by
  decide +kernel

end EntityFilter
