/-
Doubles in six significant digits: positional from 10^-4 up to below 10^6,
otherwise with an exponent of at least two digits; noughts at the end of the
fraction are dropped. The digits are those of the exact value, a half going
to the even neighbour.
-/
import VersionStamp.Number.Binary64
import VersionStamp.Text.Numeral

namespace VersionStamp.Binary64

/-- The exponent of the first decimal digit of `num / den`, which is not nought. -/
def magnitude (num den : Nat) : Int :=
  if den ≤ num then ((Nat.toDigits 10 (num / den)).length : Int) - 1
  else
    let j := (Nat.toDigits 10 (den / num)).length - 1
    if den ≤ num * Nat.pow 10 j then -(j : Int) else -(j : Int) - 1

/-- Digits after a point, less the noughts at their end; no point if none is left. -/
def fractionText (ds : List Char) : List Char :=
  match (ds.reverse.dropWhile (· = '0')).reverse with
  | [] => []
  | ds => '.' :: ds

/-- The first six digits of `num / den` and the exponent of the first of them. -/
def sixDigits (num den : Nat) : List Char × Int :=
  let k := magnitude num den
  let d :=
    if k ≤ 5 then roundHalfEven (num * Nat.pow 10 (5 - k).toNat) den
    else roundHalfEven num (den * Nat.pow 10 (k - 5).toNat)
  if d = 1000000 then (Nat.toDigits 10 100000, k + 1) else (Nat.toDigits 10 d, k)

/-- A positive value in six significant digits. -/
def significant (num den : Nat) : List Char :=
  let (ds, k) := sixDigits num den
  if -4 ≤ k ∧ k < 6 then
    if 0 ≤ k then ds.take (k.toNat + 1) ++ fractionText (ds.drop (k.toNat + 1))
    else '0' :: fractionText (List.replicate ((-k).toNat - 1) '0' ++ ds)
  else
    ds.take 1 ++ fractionText (ds.drop 1) ++ ['e', if k < 0 then '-' else '+']
      ++ (Text.padded 2 k.natAbs).toList

def signText (negative : Bool) : String := if negative then "-" else ""

/-- A double in six significant digits. -/
def text : Binary64 → String
  | .nan => "nan"
  | .infinite n => signText n ++ "inf"
  | .finite n u =>
    signText n ++ if u = 0 then "0" else String.ofList (significant u unitsPerOne)

end VersionStamp.Binary64
