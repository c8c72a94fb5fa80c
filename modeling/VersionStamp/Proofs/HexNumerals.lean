/-
Numerals in base sixteen.

`ofHex_hexPadded`: a numeral is read back as its number, whatever the noughts in front,
and a number that fits has as many digits as asked for (`length_hexPadded`). The
digits are sixteen characters, whose properties are looked through one by one
(`digitChar_cases`).
-/
import Mathlib.Data.Nat.Digits.Defs
import VersionStamp.Text.Numeral

namespace VersionStamp.Text

/-- What holds of the sixteen digits, and of the star for a number that is none, holds of every digit. -/
theorem digitChar_cases {P : Char → Prop} (hdigits : ∀ d < 16, P (Nat.digitChar d)) (hnone : P '*') (d : Nat) :
    P (Nat.digitChar d) := by
  by_cases hd : d < 16
  · exact hdigits d hd
  · obtain ⟨k, rfl⟩ := Nat.exists_eq_add_of_le' (Nat.le_of_not_lt hd)
    have hstar : Nat.digitChar (k + 16) = '*' := by simp [Nat.digitChar]
    rwa [hstar]

theorem mem_toDigits {base n : Nat} {c : Char} (h : c ∈ Nat.toDigits base n) : ∃ d, c = Nat.digitChar d := by
  have hcore : ∀ (fuel n : Nat) (ds : List Char), c ∈ Nat.toDigitsCore base fuel n ds →
      (∃ d, c = Nat.digitChar d) ∨ c ∈ ds := by
    intro fuel
    induction fuel with
    | zero => exact fun _ _ => .inr
    | succ fuel ih =>
      intro n ds hc
      rw [Nat.toDigitsCore] at hc
      split at hc
      · exact (List.mem_cons.1 hc).imp_left fun hc => ⟨_, hc⟩
      · rcases ih _ _ hc with hdigit | hc
        · exact .inl hdigit
        · exact (List.mem_cons.1 hc).imp_left fun hc => ⟨_, hc⟩
  exact (hcore _ _ _ h).resolve_right List.not_mem_nil

/-- A padded numeral is made of digits. -/
theorem mem_hexPadded {width n : Nat} {c : Char} (h : c ∈ (hexPadded width n).toList) : ∃ d, c = Nat.digitChar d := by
  rw [hexPadded, String.toList_ofList] at h
  rcases List.mem_append.1 h with hnought | hdigit
  · exact ⟨0, List.eq_of_mem_replicate hnought⟩
  · exact mem_toDigits hdigit

theorem length_hexPadded {width n : Nat} (hwidth : 0 < width) (hn : n < 16 ^ width) :
    (hexPadded width n).toList.length = width := by
  have hlength := (Nat.length_toDigits_le_iff (by decide : 1 < 16) hwidth).2 hn
  rw [hexPadded, String.toList_ofList, List.length_append, List.length_replicate]
  omega

/-! ## Reading -/

/-- The value of a digit in base sixteen. -/
def hexDigit (c : Char) : Nat := if c.toNat < 'a'.toNat then c.toNat - '0'.toNat else c.toNat - 'a'.toNat + 10

theorem hexDigit_digitChar {d : Nat} (hd : d < 16) : hexDigit (Nat.digitChar d) = d := by
  have hall : ∀ d < 16, hexDigit (Nat.digitChar d) = d := by decide
  exact hall d hd

/-- The number that digits in base sixteen stand for. -/
def ofHex (cs : List Char) : Nat := cs.foldl (fun n c => 16 * n + hexDigit c) 0

theorem ofHex_concat (cs : List Char) (c : Char) : ofHex (cs ++ [c]) = 16 * ofHex cs + hexDigit c := by
  rw [ofHex, List.foldl_append]
  rfl

theorem ofHex_toDigits (n : Nat) : ofHex (Nat.toDigits 16 n) = n := by
  induction n using Nat.strongRecOn with
  | ind n ih =>
    rw [Nat.toDigits_eq_if (by decide)]
    split
    next hn => exact (Nat.zero_add _).trans (hexDigit_digitChar hn)
    next hn =>
      rw [ofHex_concat, ih (n / 16) (by omega), hexDigit_digitChar (Nat.mod_lt n (by decide)), Nat.div_add_mod]

/-- Noughts in front do not count. -/
theorem ofHex_hexPadded (width n : Nat) : ofHex (hexPadded width n).toList = n := by
  have hnoughts : ∀ k, ofHex (List.replicate k '0') = 0 := by
    intro k
    induction k with
    | zero => rfl
    | succ k ih =>
      rw [List.replicate_succ', ofHex_concat, ih]
      rfl
  rw [hexPadded, String.toList_ofList, ofHex, List.foldl_append, ← ofHex, hnoughts]
  exact ofHex_toDigits n

end VersionStamp.Text
