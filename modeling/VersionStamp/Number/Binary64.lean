/-
Double precision numbers as exact values.

Every finite double is a whole number of units of 2^-1074, so that is how it
is kept: `finite negative units`. Order, rounding and printing are then
arithmetic on natural numbers, and nothing is lost on the way in or out
(`word`, `ofWord`).
-/
namespace VersionStamp

/-- A double: not a number, an infinity, or a count of units of 2^-1074 with its sign. -/
inductive Binary64
  | nan
  | infinite (negative : Bool)
  | finite (negative : Bool) (units : Nat)
  deriving DecidableEq, Repr

namespace Binary64

def powerOfTwo (n : Nat) : Nat := Nat.pow 2 n

/-- The number of units of 2^-1074 in one. -/
def unitsPerOne : Nat := powerOfTwo 1074

/-- The units of the least value that is too large for a finite double. -/
def unitsBeyond : Nat := powerOfTwo 2098

/-- Where the exponent starts in the word of a double, and where the sign stands. -/
def exponentPlace : Nat := powerOfTwo 52
def signPlace : Nat := powerOfTwo 63

def zero : Binary64 := .finite false 0

/-- The value in units of 2^-1074; the infinities lie outside every finite value. -/
def scaled : Binary64 → Option Int
  | .nan => none
  | .infinite n => some (if n then -(unitsBeyond : Int) else (unitsBeyond : Int))
  | .finite n u => some (if n then -(u : Int) else (u : Int))

/-- The order of IEEE 754: nothing compares with what is not a number. -/
def le (a b : Binary64) : Bool :=
  match a.scaled, b.scaled with
  | some x, some y => decide (x ≤ y)
  | _, _ => false

/-- Strictly less in the order of IEEE 754. -/
def lt (a b : Binary64) : Bool :=
  match a.scaled, b.scaled with
  | some x, some y => decide (x < y)
  | _, _ => false

/-! ## Interchange format -/

/-- The 64-bit word of the interchange format; every value that is not a number has the one
quiet word. -/
def word : Binary64 → Nat
  | .nan => 0x7FF * exponentPlace + exponentPlace / 2
  | .infinite n => (if n then signPlace else 0) + 0x7FF * exponentPlace
  | .finite n u =>
    let magnitude :=
      if u < exponentPlace then u
      else
        let shift := u.log2 - 52
        (shift + 1) * exponentPlace + (u / powerOfTwo shift - exponentPlace)
    (if n then signPlace else 0) + magnitude

def ofWord (w : Nat) : Binary64 :=
  let negative := w / signPlace % 2 == 1
  let exponent := w / exponentPlace % 0x800
  let fraction := w % exponentPlace
  if exponent = 0x7FF then
    if fraction = 0 then .infinite negative else .nan
  else if exponent = 0 then .finite negative fraction
  else .finite negative ((exponentPlace + fraction) * powerOfTwo (exponent - 1))

/-! ## Rounding -/

/-- The quotient rounded to the nearest whole number, a tie to the even one. -/
def roundHalfEven (num den : Nat) : Nat :=
  let q := num / den
  let r := num % den
  if 2 * r < den then q
  else if den < 2 * r then q + 1
  else if q % 2 = 0 then q else q + 1

/-- The double nearest to `num / den`, a tie to the even significand; beyond the largest
finite double the infinity of that sign. -/
def ofRatio (negative : Bool) (num den : Nat) : Binary64 :=
  let exact := num * unitsPerOne
  let shift := (exact / den).log2 - 52
  let units := roundHalfEven exact (den * powerOfTwo shift) * powerOfTwo shift
  if units < unitsBeyond then .finite negative units else .infinite negative

end Binary64
end VersionStamp
