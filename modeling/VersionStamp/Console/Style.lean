/-
Styles: what text looks like on a terminal, written as words. An attribute is
switched on by its name or shorthand and off by `not` in front of it, a colour
stands by itself or behind `on` for the background, and `link` is followed by
an address. Of two words for one thing the later one counts.

`Style.text` writes a style in one fixed order, so that two ways of writing
one style have one text.
-/
import VersionStamp.Console.Colour
import VersionStamp.Ledger
import VersionStamp.Text.Blank

namespace VersionStamp.Console

inductive Attribute
  | bold
  | dim
  | italic
  | underline
  | blink
  | fastBlink
  | reverse
  | conceal
  | strike
  | doubleUnderline
  | frame
  | encircle
  | overline
  deriving DecidableEq, Repr

namespace Attribute

/-- The attributes in the order in which a style is written. -/
def all : List Attribute :=
  [.bold, .dim, .italic, .underline, .blink, .fastBlink, .reverse, .conceal, .strike,
   .doubleUnderline, .frame, .encircle, .overline]

def name : Attribute → String
  | .bold => "bold"
  | .dim => "dim"
  | .italic => "italic"
  | .underline => "underline"
  | .blink => "blink"
  | .fastBlink => "blink2"
  | .reverse => "reverse"
  | .conceal => "conceal"
  | .strike => "strike"
  | .doubleUnderline => "underline2"
  | .frame => "frame"
  | .encircle => "encircle"
  | .overline => "overline"

def shorthand? : Attribute → Option String
  | .bold => some "b"
  | .dim => some "d"
  | .italic => some "i"
  | .underline => some "u"
  | .reverse => some "r"
  | .conceal => some "c"
  | .strike => some "s"
  | .doubleUnderline => some "uu"
  | .overline => some "o"
  | .blink | .fastBlink | .frame | .encircle => none

/-- The attribute with that name or shorthand, in small letters. -/
def ofWord? (word : List Char) : Option Attribute :=
  let s := String.ofList word
  all.find? fun a => a.name == s || a.shorthand? == some s

end Attribute

structure Style where
  /-- Which attributes are switched on or off; the others stay as they are. -/
  attributes : Ledger Attribute Bool := []
  foreground : Option Colour := none
  background : Option Colour := none
  link : Option (List Char) := none
  deriving DecidableEq, Repr

namespace Style

/-- Why words are no style. -/
inductive Error
  | colourExpected
  | addressExpected
  /-- No attribute behind `not`; the word there is empty if there is none. -/
  | attributeExpected (found : List Char)
  | notForeground (word : List Char) (cause : Colour.Error)
  | notBackground (word : List Char) (cause : Colour.Error)
  deriving DecidableEq, Repr

def Error.message : Error → String
  | .colourExpected => "color expected after 'on'"
  | .addressExpected => "URL expected after 'link'"
  | .attributeExpected found =>
    "expected style attribute after 'not', found " ++ Text.quoted (String.ofList found)
  | .notForeground w cause =>
    "unable to parse " ++ Text.quoted (String.ofList w) ++ " as color; " ++ cause.message
  | .notBackground w cause =>
    "unable to parse " ++ Text.quoted (String.ofList w) ++ " as background color; " ++ cause.message

/-- The number that could not be read, if that is what is wrong. -/
def Error.badNumber? : Error → Option BadNumber
  | .notForeground _ (.badNumber e) => some e
  | .notBackground _ (.badNumber e) => some e
  | _ => none

/-- The style with the words added to it. Single words may be written in any case; behind `not`
only small letters count. -/
def addWords (s : Style) : List (List Char) → Except Error Style
  | [] => .ok s
  | written :: ws =>
    let word := Text.Chars.lower written
    if word = "on".toList then
      match ws with
      | [] => .error .colourExpected
      | colour :: ws =>
        match Colour.parse colour with
        | .error e => .error (.notBackground colour e)
        | .ok c => addWords { s with background := some c } ws
    else if word = "not".toList then
      match ws with
      | [] => .error (.attributeExpected [])
      | w :: ws =>
        match Attribute.ofWord? w with
        | none => .error (.attributeExpected w)
        | some a => addWords { s with attributes := s.attributes.put a false } ws
    else if word = "link".toList then
      match ws with
      | [] => .error .addressExpected
      | address :: ws => addWords { s with link := some address } ws
    else
      match Attribute.ofWord? word with
      | some a => addWords { s with attributes := s.attributes.put a true } ws
      | none =>
        match Colour.parse word with
        | .error e => .error (.notForeground word e)
        | .ok c => addWords { s with foreground := some c } ws

/-- The style that a text describes; `none` by itself is the style that changes nothing. -/
def parse (cs : List Char) : Except Error Style :=
  if Text.Chars.trim cs = "none".toList then .ok {} else addWords {} (Text.Chars.words cs)

/-- The word or words for an attribute, if the style has a say about it. -/
def attributeWords (s : Style) (a : Attribute) : List (List Char) :=
  match s.attributes.get? a with
  | some true => [a.name.toList]
  | some false => ["not".toList, a.name.toList]
  | none => []

/-- The words for the style, each thing once and in a fixed order. -/
def words (s : Style) : List (List Char) :=
  Attribute.all.flatMap s.attributeWords
    ++ (s.foreground.map Colour.name).toList
    ++ (match s.background with
        | some c => ["on".toList, c.name]
        | none => [])
    ++ (match s.link with
        | some address => ["link".toList, address]
        | none => [])

/-- The text for the style. -/
def text (s : Style) : List Char :=
  if s.words = [] then "none".toList else [' '].intercalate s.words

end Style
end VersionStamp.Console
