/-
Text in quotes, for messages: printable characters stand for themselves, the
backslash, the quote and all others are escaped. Single quotes are used, but
double ones for a text that holds a single quote and no double one.
-/
import VersionStamp.Text.Numeral
import VersionStamp.Text.Printable

namespace VersionStamp.Text

/-- One character inside quotes. -/
def quotedChar (quote c : Char) : String :=
  let n := c.toNat
  if c = '\\' then "\\\\"
  else if c = quote then String.ofList ['\\', c]
  else if c = '\n' then "\\n"
  else if c = '\r' then "\\r"
  else if c = '\t' then "\\t"
  else if isPrintable c then String.singleton c
  else if n ≤ 0xFF then "\\x" ++ hexPadded 2 n
  else if n ≤ 0xFFFF then "\\u" ++ hexPadded 4 n
  else "\\U" ++ hexPadded 8 n

def quoteFor (cs : List Char) : Char :=
  if cs.contains '\'' && !cs.contains '"' then '"' else '\''

/-- The text in quotes. -/
def quoted (s : String) : String :=
  let quote := quoteFor s.toList
  String.singleton quote ++ String.join (s.toList.map (quotedChar quote)) ++ String.singleton quote

end VersionStamp.Text
