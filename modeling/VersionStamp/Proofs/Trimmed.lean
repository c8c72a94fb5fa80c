/-
Texts without blanks at their ends, told by their first and last characters.

`trim_eq_self_iff`: these are the texts that `trim` leaves alone, and
`trimmed_trim`: what `trim` gives is one of them. `Trimmed.surround`: what
stands between the first and the last stretch does not matter.
-/
import Mathlib.Data.List.DropRight
import VersionStamp.Text.Blank

namespace VersionStamp.Text.Chars

/-- Neither the first nor the last character is blank. -/
structure Trimmed (cs : List Char) : Prop where
  head : ∀ c ∈ cs.head?, isBlank c = false
  last : ∀ c ∈ cs.getLast?, isBlank c = false

theorem trimmed_singleton {c : Char} (h : isBlank c = false) : Trimmed [c] := by
  constructor <;> simpa using h

theorem Trimmed.surround {a b : List Char} (ha : Trimmed a) (hb : Trimmed b) (ha' : a ≠ [])
    (hb' : b ≠ []) (middle : List Char) : Trimmed (a ++ middle ++ b) := by
  constructor
  · intro c hc
    rw [List.append_assoc, List.head?_append_of_ne_nil _ ha'] at hc
    exact ha.head c hc
  · intro c hc
    rw [List.getLast?_append_of_ne_nil _ hb'] at hc
    exact hb.last c hc

theorem trimEnd_append (cs : List Char) : ∃ blanks, trimEnd cs ++ blanks = cs :=
  List.rdropWhile_prefix isBlank cs

theorem trim_sublist (cs : List Char) : (trim cs).Sublist cs := by
  obtain ⟨blanks, h⟩ := trimEnd_append (trimStart cs)
  have hstart : (trimStart cs).Sublist cs := List.dropWhile_sublist isBlank
  rw [← h] at hstart
  exact (List.sublist_append_left _ _).trans hstart

theorem head?_trimStart (cs : List Char) : ∀ c ∈ (trimStart cs).head?, isBlank c = false := by
  intro c hc
  have h := List.head?_dropWhile_not isBlank cs
  rw [trimStart] at hc
  rw [hc] at h
  simpa using h

theorem getLast?_trimEnd (cs : List Char) : ∀ c ∈ (trimEnd cs).getLast?, isBlank c = false := by
  intro c hc
  rw [trimEnd, List.getLast?_reverse] at hc
  exact head?_trimStart cs.reverse c hc

/-- What is left after trimming has no blank at either end. -/
theorem trimmed_trim (cs : List Char) : Trimmed (trim cs) := by
  refine ⟨fun c hc => ?_, getLast?_trimEnd _⟩
  obtain ⟨blanks, h⟩ := trimEnd_append (trimStart cs)
  refine head?_trimStart cs c ?_
  rw [← h, List.head?_append_of_ne_nil]
  · exact hc
  · rintro he
    rw [trim, he] at hc
    simp at hc

theorem Trimmed.trimStart_eq {cs : List Char} (h : Trimmed cs) : trimStart cs = cs := by
  cases cs with
  | nil => rfl
  | cons c cs => simp [trimStart, h.head c (by simp)]

theorem Trimmed.trimEnd_eq {cs : List Char} (h : Trimmed cs) : trimEnd cs = cs := by
  have hr : Trimmed cs.reverse := ⟨by simpa using h.last, by simpa using h.head⟩
  have := hr.trimStart_eq
  rw [trimStart] at this
  rw [trimEnd, this, List.reverse_reverse]

theorem Trimmed.trim_eq {cs : List Char} (h : Trimmed cs) : trim cs = cs := by
  rw [trim, h.trimStart_eq, h.trimEnd_eq]

theorem trimEnd_cons {c : Char} (h : isBlank c = false) (cs : List Char) : trimEnd (c :: cs) = c :: trimEnd cs := by
  have hc : [c].dropWhile isBlank = [c] := by simp [h]
  rw [trimEnd, List.reverse_cons, List.dropWhile_append, hc, trimEnd]
  split
  next he => rw [List.isEmpty_iff.1 he]; rfl
  next => rw [List.reverse_append]; rfl

/-- A first character that is not blank stays the first. -/
theorem trim_cons {c : Char} (h : isBlank c = false) (cs : List Char) : trim (c :: cs) = c :: trimEnd cs := by
  rw [trim, trimStart, List.dropWhile_cons_of_neg (by simp [h]), trimEnd_cons h]

theorem trim_eq_self_iff {cs : List Char} : trim cs = cs ↔ Trimmed cs :=
  ⟨fun h => h ▸ trimmed_trim cs, Trimmed.trim_eq⟩

end Chars

theorem trim_eq_self_iff {s : String} : trim s = s ↔ Chars.Trimmed s.toList := by
  rw [← Chars.trim_eq_self_iff, ← toList_trim, String.toList_inj]

theorem trim_trim (s : String) : trim (trim s) = trim s := by
  rw [trim_eq_self_iff, toList_trim]
  exact Chars.trimmed_trim _

end VersionStamp.Text
