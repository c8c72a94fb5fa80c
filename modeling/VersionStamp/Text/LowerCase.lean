/-
Texts in lower case. Two rules look at more than one character: a sigma that
ends a word has a form of its own, and an I with a dot becomes an i and a dot
that is a character by itself.
-/
import VersionStamp.Text.Casing

namespace VersionStamp.Text.Chars

/-- Whether the nearest of the characters that casing does not pass over is a letter with a
case. -/
def meetsLetter (cs : List Char) : Bool :=
  (cs.dropWhile betweenLetters.holds).head?.any wordLetters.holds

/-- One character in lower case, between those before it, read backwards, and those after it. -/
def lowerAt (before : List Char) (c : Char) (after : List Char) : List Char :=
  if c = 'Σ' then if meetsLetter before && !meetsLetter after then ['ς'] else ['σ']
  else if c = 'İ' then ['i', '\u0307']
  else [lowerCase c]

/-- The characters in lower case, behind those before them, which are read backwards. -/
def lowerFrom (before : List Char) : List Char → List Char
  | [] => []
  | c :: cs => lowerAt before c cs ++ lowerFrom (c :: before) cs

/-- The characters in lower case. -/
def lower (cs : List Char) : List Char := lowerFrom [] cs

end VersionStamp.Text.Chars
