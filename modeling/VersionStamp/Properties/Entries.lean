/-
Reading properties: one `key=value` a line, `#` and `!` start a comment.

Blanks around a line, its key and its value do not count, blank lines and
comments are skipped, and there is no escaping. A key that comes again takes
the new value and keeps its place. The first line that is none of these is
named by its number, and nothing is read.
-/
import VersionStamp.Ledger
import VersionStamp.Text.Blank
import VersionStamp.Text.Lines

namespace VersionStamp.Properties

/-- Keys and their values in the order in which the keys first came. -/
abbrev Entries := Ledger String String

/-- What one line of properties is. -/
inductive Line
  | skipped
  | entry (key value : String)
  /-- Neither blank nor a comment, and without a key in front of an equals sign. -/
  | malformed (text : String)
  deriving DecidableEq, Repr

/-- A line that cannot be read, by its number from one and its trimmed text. -/
structure BadLine where
  number : Nat
  text : String
  deriving DecidableEq, Repr

def BadLine.message (e : BadLine) : String :=
  "line " ++ toString e.number ++ ": expected key=value, got '" ++ e.text ++ "'"

/-- What stands before and after the first equals sign. -/
def cut : List Char → Option (List Char × List Char)
  | [] => none
  | c :: cs => if c = '=' then some ([], cs) else (cut cs).map fun p => (c :: p.1, p.2)

def isComment : List Char → Bool
  | '#' :: _ => true
  | '!' :: _ => true
  | _ => false

/-- What a trimmed line is. -/
def Line.ofTrimmed (cs : List Char) : Line :=
  if cs = [] ∨ isComment cs then .skipped
  else
    match cut cs with
    | none => .malformed (String.ofList cs)
    | some (key, value) =>
      if Text.Chars.trim key = [] then .malformed (String.ofList cs)
      else .entry (String.ofList (Text.Chars.trim key)) (String.ofList (Text.Chars.trim value))

def Line.ofChars (cs : List Char) : Line := .ofTrimmed (Text.Chars.trim cs)

/-- The entries of the lines, added to those already read; `n` is the number of the first. -/
def readLines (n : Nat) (entries : Entries) : List (List Char) → Except BadLine Entries
  | [] => .ok entries
  | l :: ls =>
    match Line.ofChars l with
    | .skipped => readLines (n + 1) entries ls
    | .entry key value => readLines (n + 1) (entries.put key value) ls
    | .malformed t => .error ⟨n, t⟩

/-- The entries of a text. -/
def parse (content : String) : Except BadLine Entries :=
  readLines 1 [] (Text.Chars.lines content.toList)

end VersionStamp.Properties
