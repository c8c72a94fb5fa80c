/-
Classes of characters as stretches of code points.
-/
namespace VersionStamp.Text

/-- The first and the last code point of each stretch. -/
abbrev Ranges := List (Nat × Nat)

/-- Whether one of the stretches holds the character. -/
def Ranges.holds (ranges : Ranges) (c : Char) : Bool :=
  ranges.any fun r => r.1 ≤ c.toNat && c.toNat ≤ r.2

end VersionStamp.Text
