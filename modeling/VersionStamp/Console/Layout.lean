/-
Text as the console lays it out: markup first, without the control characters
that would move the cursor, then each tab becomes the blanks up to the next
multiple of eight columns, one at least.

Styles print nothing, but they have to be styles: the one asked for the whole
text has to be known, and a tag whose style has a number that cannot be read
must not show.
-/
import VersionStamp.Console.Markup
import VersionStamp.Console.Theme
import VersionStamp.Text.Split
import VersionStamp.Text.Width

namespace VersionStamp.Console

/-- A stretch in front of a tab, with the blanks that the tab stands for. The first of them is
measured together with the stretch, the others go up to the next multiple of eight. The stretch
begins at such a multiple: at the start of its line or behind another tab. -/
def fill (stretch : List Char) : List Char :=
  let n := Text.columnsOf (stretch ++ [' '])
  stretch ++ List.replicate (1 + (8 - n % 8) % 8) ' '

/-- The stretches of a line that were parted by tabs. -/
def joinStretches : List (List Char) → List Char
  | [] => []
  | [last] => last
  | stretch :: stretches => fill stretch ++ joinStretches stretches

/-- The lines with blanks for their tabs. -/
def expandTabs (cs : List Char) : List Char :=
  ['\n'].intercalate ((Text.Chars.split '\n' cs).map fun line =>
    joinStretches (Text.Chars.split '\t' line))

/-- Why a text cannot be shown. -/
inductive Error
  | markup (cause : Markup.Error)
  /-- The style for the whole text is none. -/
  | unknownStyle (name : String) (cause : Style.Error)
  deriving DecidableEq, Repr

def Error.message : Error → String
  | .markup e => e.message
  | .unknownStyle name cause =>
    "Failed to get style " ++ Text.quoted name ++ "; " ++ cause.message

/-- Whether a style is one: a name of the theme, or words that describe one. The empty text asks
for no style. -/
def checkStyle (style : String) : Except Error Unit :=
  if style = "" || themeNames.contains style then .ok ()
  else
    match Style.parse style.toList with
    | .ok _ => .ok ()
    | .error e =>
      match e.badNumber? with
      | some b => .error (.markup (.badNumber b))
      | none => .error (.unknownStyle style e)

/-- An end of line or a tab: the text is laid out in the pieces between them. -/
def isBreak (c : Char) : Bool := c == '\n' || c == '\t'

/-- The number of the first piece in which a span has a character other than an end of line. -/
def firstPiece? (text : List Char) (s : Markup.Span) : Option Nat :=
  let inside := (text.drop s.start).take (s.stop - s.start)
  let ends := (inside.takeWhile (· == '\n')).length
  if ends < inside.length then some ((text.take s.start).countP isBreak + ends) else none

/-- A span goes before another if it is in an earlier piece, or in the same one and begins
earlier. -/
def goesBefore (a b : Nat × Markup.Span) : Bool :=
  a.1 < b.1 || (a.1 == b.1 && a.2.start < b.2.start)

/-- The first of the spans, and the first in the list of those that nothing tells apart. -/
def firstSpan? (spans : List (Nat × Markup.Span)) : Option (Nat × Markup.Span) :=
  spans.foldl (fun first s =>
    match first with
    | none => some s
    | some f => if goesBefore s f then some s else some f) none

/-- The bad number that is met first when the styles are looked up. A text of one piece shows all
its spans, any other those that have a character in one of its pieces. Of spans that begin
together the one that is closed last comes first. -/
def firstBadNumber? (p : Markup.Printed) : Option BadNumber :=
  let pieceOf? (s : Markup.Span) : Option Nat :=
    if p.text.any isBreak then firstPiece? p.text s else some 0
  let spans := p.spans.reverse.filterMap fun s => (pieceOf? s).map fun n => (n, s)
  (firstSpan? spans).map fun s => s.2.badNumber

/-- The characters that the console shows for a text in a style. -/
def layout (text : String) (style : String := "") : Except Error String := do
  let printed ← (Markup.render text.toList).mapError .markup
  checkStyle style
  match firstBadNumber? printed with
  | some e => .error (.markup (.badNumber e))
  | none => return String.ofList (expandTabs printed.text)

end VersionStamp.Console
