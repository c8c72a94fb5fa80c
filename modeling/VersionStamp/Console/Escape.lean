/-
Text for a stream that is no terminal. Sequences that set colours or move the
cursor mean nothing there, and are left out of text that is written as it is.
Such a sequence is the escape character and `[`, any number of digits, `;`
and `?`, and an ASCII letter.
-/
namespace VersionStamp.Console

def isParameter (c : Char) : Bool := c.isDigit || c = ';' || c = '?'

/-- The length of the sequence whose escape character stands before the characters, without that
character. -/
def sequenceLength? : List Char → Option Nat
  | '[' :: cs =>
    if (cs.dropWhile isParameter).head?.any Char.isAlpha then
      some ((cs.takeWhile isParameter).length + 2)
    else none
  | _ => none

/-- The characters outside the sequences. `skip` counts those that belong to the sequence already
met. -/
def dropSequences (skip : Nat) : List Char → List Char
  | [] => []
  | c :: cs =>
    match skip with
    | skip + 1 => dropSequences skip cs
    | 0 =>
      match if c = '\x1B' then sequenceLength? cs else none with
      | some n => dropSequences n cs
      | none => c :: dropSequences 0 cs

/-- The text without sequences for a terminal. -/
def plain (text : String) : String := String.ofList (dropSequences 0 text.toList)

end VersionStamp.Console
