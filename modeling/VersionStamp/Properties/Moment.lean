/-
Moments as they are written into a stamped file: local date and time, and the
name of the zone if there is one.
-/
import VersionStamp.Text.Blank
import VersionStamp.Text.Numeral

namespace VersionStamp

/-- A time zone: by name, or by its offset from UTC in microseconds. -/
inductive Zone
  | named (name : String)
  | offset (microseconds : Int)
  deriving DecidableEq, Repr

/-- A name goes up to its first NUL. The offset nought is `UTC`; any other follows it as hours
and minutes, and as seconds and microseconds where they are not nought. -/
def Zone.text : Zone → String
  | .named n => String.ofList (n.toList.takeWhile (· ≠ '\x00'))
  | .offset us =>
    if us = 0 then "UTC"
    else
      let total := us.natAbs
      let micro := total % 1000000
      let seconds := total / 1000000
      "UTC" ++ (if us < 0 then "-" else "+")
        ++ Text.padded 2 (seconds / 3600) ++ ":" ++ Text.padded 2 (seconds / 60 % 60)
        ++ (if seconds % 60 = 0 ∧ micro = 0 then "" else ":" ++ Text.padded 2 (seconds % 60))
        ++ (if micro = 0 then "" else "." ++ Text.padded 6 micro)

/-- A date and time of day in some zone; without a zone it is nobody's in particular. -/
structure Moment where
  year : Nat
  month : Nat
  day : Nat
  hour : Nat
  minute : Nat
  second : Nat
  zone : Option Zone := none
  deriving DecidableEq, Repr

/-- The moment in UTC that lies the given seconds after the start of 1970. Years are counted from
March, so that the leap day is the last of its year. -/
def Moment.utc (seconds : Nat) : Moment :=
  let days := seconds / 86400 + 719468
  let inEra := days % 146097
  let yearOfEra := (inEra - inEra / 1460 + inEra / 36524 - inEra / 146096) / 365
  let inYear := inEra - (365 * yearOfEra + yearOfEra / 4 - yearOfEra / 100)
  let fromMarch := (5 * inYear + 2) / 153
  let month := if fromMarch < 10 then fromMarch + 3 else fromMarch - 9
  { year := days / 146097 * 400 + yearOfEra + (if month ≤ 2 then 1 else 0)
    month := month
    day := inYear - (153 * fromMarch + 2) / 5 + 1
    hour := seconds / 3600 % 24
    minute := seconds / 60 % 60
    second := seconds % 60
    zone := some (.offset 0) }

/-- The date, the time and the zone, blanks at the ends left out. -/
def Moment.text (m : Moment) : String :=
  Text.trim (toString m.year ++ "-" ++ Text.padded 2 m.month ++ "-" ++ Text.padded 2 m.day
    ++ " " ++ Text.padded 2 m.hour ++ ":" ++ Text.padded 2 m.minute ++ ":" ++ Text.padded 2 m.second
    ++ " " ++ (m.zone.map Zone.text).getD "")

end VersionStamp
