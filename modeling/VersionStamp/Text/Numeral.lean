/-
Whole numbers written with at least a given count of digits, in base ten and
in base sixteen.
-/
namespace VersionStamp.Text

/-- `n` in base ten, with noughts in front up to `width` digits. -/
def padded (width n : Nat) : String :=
  let ds := Nat.toDigits 10 n
  String.ofList (List.replicate (width - ds.length) '0' ++ ds)

/-- `n` in base sixteen with small letters, with noughts in front up to `width` digits. -/
def hexPadded (width n : Nat) : String :=
  let ds := Nat.toDigits 16 n
  String.ofList (List.replicate (width - ds.length) '0' ++ ds)

end VersionStamp.Text
