/-
Characters cut at a separator, and texts cut into words.

`intercalate_split`: putting the separator back between the stretches gives
the characters again, so nothing is lost and nothing is added. So what stands in
front of the first separator, and what behind it, is told by the characters
(`append_separator_inj`).
-/
import VersionStamp.Text.Blank

namespace VersionStamp.Text.Chars

/-- The stretches between the separators; one more than there are separators. -/
def split (separator : Char) : List Char → List (List Char)
  | [] => [[]]
  | c :: cs =>
    if c = separator then [] :: split separator cs
    else
      match split separator cs with
      | [] => [[c]]
      | l :: ls => (c :: l) :: ls

/-- The stretches without a blank in them. -/
def words (cs : List Char) : List (List Char) :=
  (split ' ' (cs.map fun c => if isBlank c then ' ' else c)).filter (· ≠ [])

theorem split_ne_nil (separator : Char) (cs : List Char) : split separator cs ≠ [] := by
  cases cs with
  | nil => simp [split]
  | cons c cs =>
    simp only [split]
    split
    · simp
    · split <;> simp

theorem intercalate_split (separator : Char) (cs : List Char) :
    [separator].intercalate (split separator cs) = cs := by
  induction cs with
  | nil => rfl
  | cons c cs ih =>
    obtain ⟨l, ls, h⟩ := List.exists_cons_of_ne_nil (split_ne_nil separator cs)
    rw [h] at ih
    by_cases hc : c = separator
    · subst hc
      simp only [split, if_true, h]
      rw [← ih]
      simp [List.intercalate, List.intersperse]
    · simp only [split, if_neg hc, h]
      rw [← ih]
      cases ls <;> simp [List.intercalate, List.intersperse]

theorem split_of_not_mem {separator : Char} {cs : List Char} (h : separator ∉ cs) : split separator cs = [cs] := by
  induction cs with
  | nil => rfl
  | cons c cs ih =>
    simp only [List.mem_cons, not_or] at h
    rw [split, if_neg (Ne.symm h.1), ih h.2]

theorem mem_of_mem_split {separator c : Char} {cs l : List Char} (hl : l ∈ split separator cs) (hc : c ∈ l) :
    c ∈ cs ∧ c ≠ separator := by
  induction cs generalizing l with
  | nil =>
    obtain rfl : l = [] := by simpa [split] using hl
    cases hc
  | cons d cs ih =>
    rw [split] at hl
    split at hl
    next hd =>
      rcases List.mem_cons.1 hl with rfl | hl
      · cases hc
      · exact (ih hl hc).imp_left (List.mem_cons_of_mem _)
    next hd =>
      split at hl
      next he => exact absurd he (split_ne_nil separator cs)
      next front rest he =>
        rcases List.mem_cons.1 hl with rfl | hl
        · rcases List.mem_cons.1 hc with rfl | hc
          · exact ⟨List.mem_cons_self, hd⟩
          · exact (ih (he ▸ List.mem_cons_self) hc).imp_left (List.mem_cons_of_mem _)
        · exact (ih (he ▸ List.mem_cons_of_mem _ hl) hc).imp_left (List.mem_cons_of_mem _)

theorem split_append (separator : Char) (front rest : List Char) :
    split separator (front ++ separator :: rest) = split separator front ++ split separator rest := by
  induction front with
  | nil => simp [split]
  | cons c front ih =>
    by_cases hc : c = separator
    · simp [split, hc, ih]
    · obtain ⟨l, ls, h⟩ := List.exists_cons_of_ne_nil (split_ne_nil separator front)
      simp [split, hc, ih, h]

/-- Where the first separator stands is told by the characters. -/
theorem append_separator_inj {separator : Char} {front front' rest rest' : List Char} (h : separator ∉ front)
    (h' : separator ∉ front') :
    front ++ separator :: rest = front' ++ separator :: rest' ↔ front = front' ∧ rest = rest' := by
  constructor
  · intro heq
    have hsplit : front :: split separator rest = front' :: split separator rest' := by
      simpa [split_append, split_of_not_mem h, split_of_not_mem h'] using congrArg (split separator) heq
    obtain ⟨hfront, hrest⟩ := List.cons_eq_cons.1 hsplit
    exact ⟨hfront, by rw [← intercalate_split separator rest, hrest, intercalate_split]⟩
  · rintro ⟨rfl, rfl⟩
    rfl

end VersionStamp.Text.Chars
