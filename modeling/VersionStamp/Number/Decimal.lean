/-
Decimal texts read as doubles.

A number is an optional sign and then `inf`, `infinity` or `nan` in any mix
of cases, or digits with at most one point among them and at least one digit,
and an optional exponent. Digits may be those of any script; a single `_` may
stand between two digits. The value is the nearest double, so a text can come
out as an infinity or as nought.
-/
import VersionStamp.Number.Binary64
import VersionStamp.Text.Digit

namespace VersionStamp.Decimal

open Text

/-- The characters without the `_` between digits; `none` where a `_` stands elsewhere.
`previous` is the character before. -/
def withoutSeparators (previous : Char) : List Char → Option (List Char)
  | [] => if previous = '_' then none else some []
  | c :: cs =>
    if c = '_' then
      if previous.isDigit then withoutSeparators c cs else none
    else if previous = '_' && !c.isDigit then none
    else (withoutSeparators c cs).map (c :: ·)

def digitsValue (ds : List Char) : Nat :=
  ds.foldl (fun n d => 10 * n + (d.toNat - 0x30)) 0

/-- A sign in front, and the rest. -/
def sign : List Char → Bool × List Char
  | '-' :: cs => (true, cs)
  | '+' :: cs => (false, cs)
  | cs => (false, cs)

/-- The exponent that makes up the whole of the characters: nought if there are none. -/
def exponent? : List Char → Option Int
  | [] => some 0
  | c :: cs =>
    if c = 'e' || c = 'E' then
      let (negative, ds) := sign cs
      if ds ≠ [] ∧ ds.all Char.isDigit then
        some (if negative then -(digitsValue ds : Int) else (digitsValue ds : Int))
      else none
    else none

/-- The double nearest to `m · 10^e`. Exponents far outside the range of doubles are settled
by the count of digits alone, so no huge power is ever formed. -/
def round (negative : Bool) (m : Nat) (e : Int) : Binary64 :=
  if m = 0 then .finite negative 0
  else
    let places := ((Nat.toDigits 10 m).length : Int) + e
    if places > 310 then .infinite negative
    else if places < -330 then .finite negative 0
    else if 0 ≤ e then .ofRatio negative (m * Nat.pow 10 e.toNat) 1
    else .ofRatio negative m (Nat.pow 10 (-e).toNat)

/-- Digits with at most one point, then an exponent. -/
def unsigned? (negative : Bool) (cs : List Char) : Option Binary64 :=
  let whole := cs.takeWhile Char.isDigit
  let rest := cs.dropWhile Char.isDigit
  let (fraction, rest) :=
    match rest with
    | '.' :: rest => (rest.takeWhile Char.isDigit, rest.dropWhile Char.isDigit)
    | rest => ([], rest)
  if whole ++ fraction = [] then none
  else (exponent? rest).map fun e =>
    round negative (digitsValue (whole ++ fraction)) (e - fraction.length)

/-- The double that the whole text denotes. -/
def read? (s : String) : Option Binary64 :=
  match withoutSeparators '\x00' (s.toList.map asciiDigit) with
  | none => none
  | some cs =>
    let (negative, cs) := sign cs
    let letters := String.ofList (cs.map Char.toLower)
    if letters = "inf" || letters = "infinity" then some (.infinite negative)
    else if letters = "nan" then some .nan
    else unsigned? negative cs

end VersionStamp.Decimal
