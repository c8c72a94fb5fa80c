/-
JSON text in ASCII: objects of texts, one field a line.

Characters outside printable ASCII are written by their UTF-16 units.
-/
import VersionStamp.Text.Numeral
import VersionStamp.Version.Info

namespace VersionStamp.Json

def unit (n : Nat) : List Char := '\\' :: 'u' :: (Text.hexPadded 4 n).toList

/-- One character between double quotes. -/
def escaped (c : Char) : List Char :=
  let n := c.toNat
  if c = '"' then ['\\', '"']
  else if c = '\\' then ['\\', '\\']
  else if c = '\n' then ['\\', 'n']
  else if c = '\r' then ['\\', 'r']
  else if c = '\t' then ['\\', 't']
  else if n = 0x08 then ['\\', 'b']
  else if n = 0x0C then ['\\', 'f']
  else if 0x20 ≤ n ∧ n ≤ 0x7E then [c]
  else if n < 0x10000 then unit n
  else unit (0xD800 + (n - 0x10000) / 0x400) ++ unit (0xDC00 + (n - 0x10000) % 0x400)

/-- A text between double quotes. -/
def text (s : String) : String :=
  String.ofList ('"' :: s.toList.flatMap escaped ++ ['"'])

/-- An object with the fields in their order; a field without a value is `null`. -/
def object (fields : List (String × Option String)) : String :=
  "\x7b\n" ++ ",\n".intercalate (fields.map fun f => "  " ++ text f.1 ++ ": " ++ (f.2.map text).getD "null")
    ++ "\n\x7d"

/-- The fields that stand for version information. -/
def fieldsOf (info : VersionInfo) : List (String × Option String) :=
  [("base_version", some info.baseVersion), ("suffix", some info.suffix),
   ("mode", some info.mode.text), ("revision", some info.revision),
   ("display_version", some info.displayVersion), ("branch", info.branch)]

def ofInfo (info : VersionInfo) : String := object (fieldsOf info)

end VersionStamp.Json
