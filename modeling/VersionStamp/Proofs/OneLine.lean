/-
Lines of a text, and the texts that survive as a value on one line.

`unbroken_of_mem_lines`: no line holds a break. `lines_append_newline`: a
stretch without a break, ended by a line feed, is the first line.
`lines_unifyBreaks`: writing every end of a line as a line feed first does not
change the lines.
-/
import VersionStamp.Proofs.Trimmed
import VersionStamp.Text.Lines

namespace VersionStamp.Text

/-- No character ends a line. -/
def Unbroken (cs : List Char) : Prop := ∀ c ∈ cs, isBreak c = false

instance (cs : List Char) : Decidable (Unbroken cs) :=
  List.decidableBAll (fun c => isBreak c = false) cs

@[simp] theorem unbroken_append {a b : List Char} : Unbroken (a ++ b) ↔ Unbroken a ∧ Unbroken b := by
  simp only [Unbroken, List.mem_append]
  exact ⟨fun h => ⟨fun c hc => h c (.inl hc), fun c hc => h c (.inr hc)⟩,
    fun h c hc => hc.elim (h.1 c) (h.2 c)⟩

@[simp] theorem unbroken_cons {c : Char} {cs : List Char} : Unbroken (c :: cs) ↔ isBreak c = false ∧ Unbroken cs := by
  simp [Unbroken]

@[simp] theorem unbroken_nil : Unbroken [] := by simp [Unbroken]

theorem Unbroken.sublist {a b : List Char} (hb : Unbroken b) (h : a.Sublist b) : Unbroken a :=
  fun c hc => hb c (h.subset hc)

theorem Unbroken.trim {cs : List Char} (h : Unbroken cs) : Unbroken (Chars.trim cs) :=
  h.sublist (Chars.trim_sublist cs)

/-- A text that neither breaks into lines nor has blanks at its ends. -/
structure OneLine (s : String) : Prop where
  unbroken : Unbroken s.toList
  trimmed : Text.trim s = s

instance (s : String) : Decidable (OneLine s) :=
  decidable_of_iff (Unbroken s.toList ∧ Text.trim s = s) ⟨fun h => ⟨h.1, h.2⟩, fun h => ⟨h.1, h.2⟩⟩

/-- What is left of a stretch of a line after trimming. -/
theorem OneLine.ofList_trim {cs : List Char} (h : Unbroken cs) : OneLine (String.ofList (Chars.trim cs)) where
  unbroken := by simpa using h.trim
  trimmed := by simpa [trim_eq_self_iff] using Chars.trimmed_trim cs

namespace Chars

theorem lines_cons_of_unbroken {c : Char} (h : isBreak c = false) (cs : List Char) :
    lines (c :: cs) = prepend c (lines cs) := by
  have hr : c ≠ '\r' := by rintro rfl; revert h; decide
  rw [lines.eq_3 c cs (fun _ he _ => hr he), if_neg (by simp [h])]

theorem lines_cons_of_isBreak {c : Char} (h : isBreak c = true) (hr : c ≠ '\r') (cs : List Char) :
    lines (c :: cs) = [] :: lines cs := by
  rw [lines.eq_3 c cs (fun _ he _ => hr he), if_pos h]

@[simp] theorem lines_newline (cs : List Char) : lines ('\n' :: cs) = [] :: lines cs :=
  lines_cons_of_isBreak (by decide) (by decide) cs

theorem lines_append_newline {l : List Char} (h : Unbroken l) (rest : List Char) :
    lines (l ++ '\n' :: rest) = l :: lines rest := by
  induction l with
  | nil => exact lines_newline rest
  | cons c l ih =>
    obtain ⟨hc, hl⟩ := unbroken_cons.1 h
    rw [List.cons_append, lines_cons_of_unbroken hc, ih hl]
    rfl

theorem lines_ne_nil {cs : List Char} (h : cs ≠ []) : lines cs ≠ [] := by
  fun_cases lines cs with
  | case1 => exact absurd rfl h
  | case2 => nofun
  | case3 => nofun
  | case4 c cs => cases lines cs <;> simp [prepend]

theorem unbroken_of_mem_prepend {c : Char} (hc : isBreak c = false) {ls : List (List Char)}
    (h : ∀ l ∈ ls, Unbroken l) : ∀ l ∈ prepend c ls, Unbroken l := by
  intro l hl
  cases ls with
  | nil =>
    obtain rfl := List.mem_singleton.1 hl
    simpa using hc
  | cons l₀ ls =>
    rcases List.mem_cons.1 hl with rfl | hl
    · exact unbroken_cons.2 ⟨hc, h l₀ List.mem_cons_self⟩
    · exact h l (List.mem_cons_of_mem _ hl)

/-- No line holds a break. -/
theorem unbroken_of_mem_lines (cs : List Char) : ∀ l ∈ lines cs, Unbroken l := by
  fun_induction lines cs with
  | case1 => simp
  | case2 cs ih =>
    intro l hl
    rcases List.mem_cons.1 hl with rfl | hl
    · exact unbroken_nil
    · exact ih l hl
  | case3 c cs _ _ ih =>
    intro l hl
    rcases List.mem_cons.1 hl with rfl | hl
    · exact unbroken_nil
    · exact ih l hl
  | case4 c cs _ hc ih => exact unbroken_of_mem_prepend (by simpa using hc) ih

/-- The lines do not depend on how their ends are written. -/
theorem lines_unifyBreaks (cs : List Char) : lines (unifyBreaks cs) = lines cs := by
  fun_induction unifyBreaks cs with
  | case1 => rfl
  | case2 cs ih => rw [lines_newline, ih, lines]
  | case3 c cs hnext ih =>
    by_cases hr : c = '\r'
    · subst hr
      rw [if_pos rfl, lines_newline, ih, lines.eq_3 _ _ hnext, if_pos (by decide)]
    · rw [if_neg hr]
      by_cases hc : isBreak c = true
      · rw [lines_cons_of_isBreak hc hr, lines_cons_of_isBreak hc hr, ih]
      · have hc : isBreak c = false := by simpa using hc
        rw [lines_cons_of_unbroken hc, lines_cons_of_unbroken hc, ih]

end Chars
end VersionStamp.Text
