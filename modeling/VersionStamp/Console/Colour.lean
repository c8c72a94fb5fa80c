/-
Colours as they are written in a style: by name, as `#` and six hexadecimal
digits, as `color(…)` with the number of a palette colour, or as `rgb(…)` with
the amounts of red, green and blue.

A colour is known by the way it is written, in small letters; two ways of
writing one shade are two colours here. An amount that cannot be read at all is
told apart from a word that is no colour, because nobody recovers from it.
-/
import VersionStamp.Console.ColourNames
import VersionStamp.Text.Digit
import VersionStamp.Text.LowerCase
import VersionStamp.Text.Quoted
import VersionStamp.Text.Split

namespace VersionStamp.Console

/-- Digits that cannot be read as a number. -/
inductive BadNumber
  | missing
  | tooLong (digits : Nat)
  deriving DecidableEq, Repr

namespace BadNumber

/-- A number with more digits than these is not read. -/
def mostDigits : Nat := 4300

def message : BadNumber → String
  | .missing => "invalid literal for int() with base 10: ''"
  | .tooLong digits =>
    "Exceeds the limit (" ++ toString mostDigits ++ " digits) for integer string conversion: value has "
      ++ toString digits ++ " digits; use sys.set_int_max_str_digits() to increase the limit"

end BadNumber

/-- The number written with decimal digits of any script. -/
def readNumber (digits : List Char) : Except BadNumber Nat :=
  if digits = [] then .error .missing
  else if BadNumber.mostDigits < digits.length then .error (.tooLong digits.length)
  else .ok (digits.foldl (fun n c => 10 * n + (Text.digitValue? c).getD 0) 0)

/-- A colour under the name that it is written with. -/
structure Colour where
  name : List Char
  deriving DecidableEq, Repr

namespace Colour

/-- Why a word is no colour. -/
inductive Error
  | unknown (word : List Char)
  /-- A number that is not in the palette. -/
  | outsidePalette (word : List Char)
  | notThreeAmounts (word : List Char)
  | amountTooLarge (word : List Char)
  | badNumber (cause : BadNumber)
  deriving DecidableEq, Repr

def Error.message : Error → String
  | .unknown w => Text.quoted (String.ofList w) ++ " is not a valid color"
  | .outsidePalette w => "color number must be <= 255 in " ++ Text.quoted (String.ofList w)
  | .notThreeAmounts w => "expected three components in " ++ Text.quoted (String.ofList w)
  | .amountTooLarge w => "color components must be <= 255 in " ++ Text.quoted (String.ofList w)
  | .badNumber e => e.message

def isNamed (cs : List Char) : Bool := colourNames.contains (String.ofList cs)

def isHexDigit (c : Char) : Bool := c.isDigit || ('a' ≤ c && c ≤ 'f')

/-- A number sign and six hexadecimal digits in small letters. -/
def isHexadecimal : List Char → Bool
  | '#' :: digits => digits.length == 6 && digits.all isHexDigit
  | _ => false

/-- What stands in the round brackets behind a word. -/
def inBrackets? (word : String) (cs : List Char) : Option (List Char) :=
  let opening := word.toList ++ ['(']
  if opening.isPrefixOf cs && cs.getLast? == some ')' then
    some ((cs.drop opening.length).dropLast)
  else none

/-- The number in `color(…)`, which has three digits at most. -/
def paletteNumber? (cs : List Char) : Option Nat :=
  (inBrackets? "color" cs).bind fun digits =>
    if digits ≠ [] && digits.length ≤ 3 && digits.all Char.isDigit then
      (readNumber digits).toOption
    else none

/-- The stretches between the commas of `rgb(…)`, which holds digits and commas only. -/
def amounts? (cs : List Char) : Option (List (List Char)) :=
  (inBrackets? "rgb" cs).bind fun inside =>
    if inside ≠ [] && inside.all (fun c => c == ',' || (Text.digitValue? c).isSome) then
      some (Text.Chars.split ',' inside)
    else none

/-- The colour that a word without blanks is. -/
def parse (word : List Char) : Except Error Colour :=
  let name := Text.Chars.lower word
  if isNamed name || isHexadecimal name then .ok ⟨name⟩
  else
    match paletteNumber? name with
    | some n => if n ≤ 255 then .ok ⟨name⟩ else .error (.outsidePalette name)
    | none =>
      match amounts? name with
      | none => .error (.unknown word)
      | some [red, green, blue] => do
        let amounts ← ([red, green, blue].mapM readNumber).mapError .badNumber
        if amounts.all (· ≤ 255) then .ok ⟨name⟩ else .error (.amountTooLarge word)
      | some _ => .error (.notThreeAmounts word)

end Colour
end VersionStamp.Console
