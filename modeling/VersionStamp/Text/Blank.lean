/-
Blank characters, and texts without the blanks at their two ends.

`isBlank` is the white space of Unicode together with the four separators
U+001C to U+001F. A text is *trimmed* when `trim` leaves it as it is.
-/
namespace VersionStamp.Text

/-- White space of Unicode, and the information separators U+001C to U+001F. -/
def isBlank (c : Char) : Bool :=
  let n := c.toNat
  (0x09 ≤ n && n ≤ 0x0D) || (0x1C ≤ n && n ≤ 0x20) || n == 0x85 || n == 0xA0 || n == 0x1680
    || (0x2000 ≤ n && n ≤ 0x200A) || n == 0x2028 || n == 0x2029 || n == 0x202F || n == 0x205F
    || n == 0x3000

namespace Chars

def trimStart (cs : List Char) : List Char := cs.dropWhile isBlank

def trimEnd (cs : List Char) : List Char := (cs.reverse.dropWhile isBlank).reverse

/-- The characters without the blanks at either end. -/
def trim (cs : List Char) : List Char := trimEnd (trimStart cs)

end Chars

/-- The text without the blanks at either end. -/
def trim (s : String) : String := String.ofList (Chars.trim s.toList)

@[simp] theorem toList_trim (s : String) : (trim s).toList = Chars.trim s.toList := by
  simp [trim]

end VersionStamp.Text
