/-
Where octets stop being text.

`decode_of_not_isValidUTF8`: the position that decoding names is the length of
the longest front of the octets that is UTF-8, whatever is wrong with the
sequence behind it.
-/
import VersionStamp.Text.Utf8

namespace VersionStamp.Text.Utf8

/-- The first `n` octets are UTF-8, and no more of them. -/
structure IsLongestFront (octets : ByteArray) (n : Nat) : Prop where
  le_size : n ≤ octets.size
  valid : (octets.extract 0 n).IsValidUTF8
  longest : ∀ m ≤ octets.size, (octets.extract 0 m).IsValidUTF8 → m ≤ n

theorem extract_char {octets : ByteArray} {i : Nat} {c : Char} (h : octets.utf8DecodeChar? i = some c) :
    octets.extract i (i + c.utf8Size) = [c].utf8Encode := by
  have hle := ByteArray.le_size_of_utf8DecodeChar?_eq_some h
  rw [ByteArray.utf8DecodeChar?_eq_utf8DecodeChar?_extract] at h
  obtain ⟨rest, hrest⟩ := ByteArray.exists_of_utf8DecodeChar?_eq_some h
  rw [ByteArray.extract_eq_extract_append_extract (i + c.utf8Size) (Nat.le_add_right _ _) hle] at hrest
  rw [List.utf8Encode_singleton]
  refine ByteArray.append_inj_left hrest ?_
  rw [ByteArray.size_extract, List.size_toByteArray, String.length_utf8EncodeChar]
  omega

/-- A character in front does not decide whether what follows is UTF-8. -/
theorem isValidUTF8_extract_iff {octets : ByteArray} {i m : Nat} {c : Char} (h : octets.utf8DecodeChar? i = some c)
    (hm : i + c.utf8Size ≤ m) :
    (octets.extract i m).IsValidUTF8 ↔ (octets.extract (i + c.utf8Size) m).IsValidUTF8 := by
  rw [ByteArray.extract_eq_extract_append_extract (i + c.utf8Size) (Nat.le_add_right _ _) hm, extract_char h,
    ByteArray.isValidUTF8_utf8Encode_singleton_append_iff]

theorem le_firstBad (octets : ByteArray) (i : Nat) : i ≤ firstBad octets i := by
  fun_induction firstBad octets i with
  | case1 => exact Nat.le_refl _
  | case2 i c _ ih => omega

theorem firstBad_le_size {octets : ByteArray} {i : Nat} (h : i ≤ octets.size) : firstBad octets i ≤ octets.size := by
  fun_induction firstBad octets i with
  | case1 => exact h
  | case2 i c hc ih => exact ih (ByteArray.le_size_of_utf8DecodeChar?_eq_some hc)

theorem valid_extract_firstBad (octets : ByteArray) (i : Nat) : (octets.extract i (firstBad octets i)).IsValidUTF8 := by
  fun_induction firstBad octets i with
  | case1 =>
    rw [ByteArray.extract_same]
    exact ByteArray.isValidUTF8_empty
  | case2 i c hc ih => exact (isValidUTF8_extract_iff hc (le_firstBad _ _)).2 ih

/-- Where no character starts, only the empty stretch is UTF-8. -/
theorem le_of_isValidUTF8_extract {octets : ByteArray} {i m : Nat} (h : octets.utf8DecodeChar? i = none)
    (hm : m ≤ octets.size) (hvalid : (octets.extract i m).IsValidUTF8) : m ≤ i := by
  obtain ⟨cs, hcs⟩ := hvalid
  refine Nat.le_of_not_lt fun hlt => ?_
  cases cs with
  | nil =>
    have hempty := ByteArray.extract_eq_empty_iff.1 hcs
    omega
  | cons c cs =>
    have hchar : (octets.extract i m).utf8DecodeChar? 0 = some c := by
      rw [hcs, ← List.singleton_append, List.utf8Encode_append]
      exact List.utf8DecodeChar?_utf8Encode_singleton_append
    have hback := ByteArray.utf8DecodeChar?_append_eq_some hchar (octets.extract m octets.size)
    rw [← ByteArray.extract_eq_extract_append_extract m (by omega) hm,
      ← ByteArray.utf8DecodeChar?_eq_utf8DecodeChar?_extract, h] at hback
    cases hback

theorem le_firstBad_of_isValidUTF8 {octets : ByteArray} {i m : Nat} (hm : m ≤ octets.size)
    (hvalid : (octets.extract i m).IsValidUTF8) : m ≤ firstBad octets i := by
  fun_induction firstBad octets i with
  | case1 i hnone => exact le_of_isValidUTF8_extract hnone hm hvalid
  | case2 i c hc ih =>
    by_cases hle : i + c.utf8Size ≤ m
    · exact ih ((isValidUTF8_extract_iff hc hle).1 hvalid)
    · have hback := le_firstBad octets (i + c.utf8Size)
      omega

theorem isLongestFront_firstBad (octets : ByteArray) : IsLongestFront octets (firstBad octets 0) where
  le_size := firstBad_le_size (Nat.zero_le _)
  valid := valid_extract_firstBad octets 0
  longest := fun _ hm hvalid => le_firstBad_of_isValidUTF8 hm hvalid

/-- Octets that are no text are refused at the end of their longest front that is. -/
theorem decode_of_not_isValidUTF8 {octets : ByteArray} (h : ¬octets.IsValidUTF8) :
    ∃ n, decode octets = .error n ∧ IsLongestFront octets n := by
  refine ⟨firstBad octets 0, ?_, isLongestFront_firstBad octets⟩
  rw [decode, String.fromUTF8?, dif_neg h]

end VersionStamp.Text.Utf8
