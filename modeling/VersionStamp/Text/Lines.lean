/-
Lines of a text.

`lines` breaks at every line separator of Unicode, and takes a carriage
return with the line feed after it as one break; the breaks are not part of
the lines, and a text that ends in a break has no empty line after it.
`unifyBreaks` is what reading in text mode does first: it writes each of the
three usual ends of a line as a line feed.
-/
namespace VersionStamp.Text

/-- The characters at which a line ends. -/
def isBreak (c : Char) : Bool :=
  let n := c.toNat
  (0x0A ≤ n && n ≤ 0x0D) || (0x1C ≤ n && n ≤ 0x1E) || n == 0x85 || n == 0x2028 || n == 0x2029

namespace Chars

/-- A character in front of the first of the lines. -/
def prepend (c : Char) : List (List Char) → List (List Char)
  | [] => [[c]]
  | l :: ls => (c :: l) :: ls

def lines : List Char → List (List Char)
  | [] => []
  | '\r' :: '\n' :: cs => [] :: lines cs
  | c :: cs => if isBreak c then [] :: lines cs else prepend c (lines cs)

/-- A carriage return, alone or before a line feed, becomes a line feed. -/
def unifyBreaks : List Char → List Char
  | [] => []
  | '\r' :: '\n' :: cs => '\n' :: unifyBreaks cs
  | c :: cs => (if c = '\r' then '\n' else c) :: unifyBreaks cs

end Chars

def unifyBreaks (s : String) : String := String.ofList (Chars.unifyBreaks s.toList)

@[simp] theorem toList_unifyBreaks (s : String) :
    (unifyBreaks s).toList = Chars.unifyBreaks s.toList := by
  simp [unifyBreaks]

end VersionStamp.Text
