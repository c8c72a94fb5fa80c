/-
Described revisions. Git writes `v3.0.0-5-gdeadbeef` for the fifth commit
after the tag `v3.0.0`; the `g` in front of the hash is a marker and not part
of it, and is left out.
-/
namespace VersionStamp.Git

namespace Chars

/-- The characters without the `g` of the first `-g`. -/
def dropMarker : List Char → List Char
  | [] => []
  | '-' :: 'g' :: cs => '-' :: cs
  | c :: cs => c :: dropMarker cs

end Chars

/-- A described revision without the marker in front of the hash. -/
def compact (described : String) : String := String.ofList (Chars.dropMarker described.toList)

@[simp] theorem toList_compact (s : String) : (compact s).toList = Chars.dropMarker s.toList := by
  simp [compact]

end VersionStamp.Git
