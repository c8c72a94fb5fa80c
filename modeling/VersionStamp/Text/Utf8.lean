/-
Text as octets. Writing is the encoding that a `String` already carries;
reading says where the octets stop being text.

`decode` answers with the text, or with the position at which the first
sequence starts that encodes no character.
-/
namespace VersionStamp.Text.Utf8

/-- The position from `i` on at which no encoded character starts: the size of the octets,
or the start of the first ill-formed sequence. -/
def firstBad (octets : ByteArray) (i : Nat) : Nat :=
  match _h : octets.utf8DecodeChar? i with
  | none => i
  | some c => firstBad octets (i + c.utf8Size)
termination_by octets.size - i
decreasing_by
  have := ByteArray.le_size_of_utf8DecodeChar?_eq_some _h
  have := c.utf8Size_pos
  omega

/-- The text that the octets encode, or the position of the first ill-formed sequence. -/
def decode (octets : ByteArray) : Except Nat String :=
  match String.fromUTF8? octets with
  | some s => .ok s
  | none => .error (firstBad octets 0)

theorem decode_toByteArray (s : String) : decode s.toByteArray = .ok s := by
  rw [decode, String.fromUTF8?, dif_pos s.isValidUTF8]
  rfl

end VersionStamp.Text.Utf8
