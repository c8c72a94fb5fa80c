/-
Text that is the same for a terminal and for any other stream.

`plain_eq_self_iff`: nothing is left out of a text exactly if no sequence for a
terminal stands in it.
-/
import Mathlib.Data.List.TakeWhile
import VersionStamp.Console.Escape

namespace VersionStamp.Console

/-- The characters begin with a sequence for a terminal. -/
def StartsSequence (cs : List Char) : Prop :=
  ∃ parameters letter rest, cs = '\x1B' :: '[' :: (parameters ++ letter :: rest) ∧
    (∀ p ∈ parameters, isParameter p = true) ∧ letter.isAlpha = true

/-- A sequence for a terminal stands somewhere in the text. -/
def HasSequence (text : String) : Prop := ∃ cs, cs <:+ text.toList ∧ StartsSequence cs

theorem toNat_of_isAlpha {c : Char} (h : c.isAlpha = true) : 'A'.toNat ≤ c.toNat := by
  have h : (decide ('A'.val ≤ c.val ∧ c.val ≤ 'Z'.val) || ('a'.val ≤ c.val && c.val ≤ 'z'.val)) = true := h
  simp only [Bool.or_eq_true, Bool.and_eq_true, decide_eq_true_eq, UInt32.le_iff_toNat_le, Char.toNat_val] at h
  have hcase : 'A'.toNat ≤ 'a'.toNat := by decide
  omega

theorem isParameter_of_isAlpha {c : Char} (h : c.isAlpha = true) : isParameter c = false := by
  have hdigit : c.isDigit = false := by
    have halpha := toNat_of_isAlpha h
    have hlt : '9'.toNat < 'A'.toNat := by decide
    rw [Bool.eq_false_iff, Ne, Char.isDigit_iff_toNat]
    omega
  have hsemicolon : c ≠ ';' := by rintro rfl; exact absurd h (by decide)
  have hquestion : c ≠ '?' := by rintro rfl; exact absurd h (by decide)
  simp [isParameter, hdigit, hsemicolon, hquestion]

theorem exists_sequenceLength?_iff {cs : List Char} :
    (∃ n, sequenceLength? cs = some n) ↔
      ∃ parameters letter rest, cs = '[' :: (parameters ++ letter :: rest) ∧
        (∀ p ∈ parameters, isParameter p = true) ∧ letter.isAlpha = true := by
  constructor
  · rintro ⟨n, hn⟩
    rw [sequenceLength?.eq_def] at hn
    split at hn
    next cs =>
      split at hn
      next hletter =>
        cases hrest : cs.dropWhile isParameter with
        | nil => simp [hrest] at hletter
        | cons letter rest =>
          refine ⟨cs.takeWhile isParameter, letter, rest, ?_, fun p hp => List.mem_takeWhile_imp hp, ?_⟩
          · rw [← hrest, List.takeWhile_append_dropWhile]
          · simpa [hrest] using hletter
      next => cases hn
    next => cases hn
  · rintro ⟨parameters, letter, rest, rfl, hparameters, hletter⟩
    have hstop : ¬isParameter letter = true := by simp [isParameter_of_isAlpha hletter]
    rw [sequenceLength?, List.dropWhile_append_of_pos hparameters, List.dropWhile_cons_of_neg hstop]
    simp [hletter]

theorem startsSequence_cons_iff {c : Char} {cs : List Char} :
    StartsSequence (c :: cs) ↔ ∃ n, (if c = '\x1B' then sequenceLength? cs else none) = some n := by
  by_cases hc : c = '\x1B'
  · simp only [hc, if_true, exists_sequenceLength?_iff, StartsSequence, List.cons.injEq, true_and]
  · simp [hc, StartsSequence]

theorem length_dropSequences_le (skip : Nat) (cs : List Char) : (dropSequences skip cs).length ≤ cs.length := by
  fun_induction dropSequences skip cs with
  | case1 => exact Nat.le_refl _
  | case2 c cs skip ih => exact Nat.le_succ_of_le ih
  | case3 c cs n _ ih => exact Nat.le_succ_of_le ih
  | case4 c cs _ ih => exact Nat.succ_le_succ ih

theorem dropSequences_eq_self_iff {cs : List Char} :
    dropSequences 0 cs = cs ↔ ∀ rest, rest <:+ cs → ¬ StartsSequence rest := by
  induction cs with
  | nil => simp [dropSequences, StartsSequence]
  | cons c cs ih =>
    simp only [List.suffix_cons_iff, forall_eq_or_imp, startsSequence_cons_iff, ← ih]
    rw [dropSequences]
    split
    next n hn =>
      -- what is left is shorter than what was there
      have hlen := length_dropSequences_le n cs
      refine iff_of_false (fun h => ?_) fun h => h.1 ⟨n, hn⟩
      rw [h, List.length_cons] at hlen
      omega
    next hnone => simp [hnone]

theorem plain_eq_self_iff {text : String} : plain text = text ↔ ¬ HasSequence text := by
  rw [plain, ← String.toList_inj, String.toList_ofList, dropSequences_eq_self_iff, HasSequence]
  simp only [not_exists, not_and]

end VersionStamp.Console
