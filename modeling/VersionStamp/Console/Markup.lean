/-
Markup in text for the console.

A tag is `[`, a small ASCII letter or one of `#`, `/`, `@`, and anything up to
the next `]` without another `[`; its name ends at the first `=`. Opening tags
are styles and print nothing; a closing tag `[/name]` ends the innermost open
tag of that name, `[/]` the one opened last. A name that is a style may be
written as any text for that style, any other name in any case. Backslashes in
front of a tag are halved, and an odd one makes the tag plain text. A `[` that
starts no tag is plain, and loses one backslash in front of it.

`tokens` cuts a text, `print` lays out the tokens with the tags still open.
-/
import VersionStamp.Console.Silent
import VersionStamp.Console.Style

namespace VersionStamp.Markup

open Console (BadNumber)

/-- A piece of text with markup in it. -/
inductive Token
  | plain (text : List Char)
  /-- An opening tag, and what stands behind the `=` if there is one. -/
  | opening (name : List Char) (parameters : Option (List Char))
  /-- A closing tag, its name, and the tag as it is written without its brackets. `position` is
  where it stands in the text, behind the backslashes that are printed. -/
  | closing (name written : List Char) (position : Nat)
  deriving DecidableEq, Repr

/-- A closing tag that ends no open one. -/
inductive Mismatch
  | unopened (written : String) (position : Nat)
  | nothingOpen (position : Nat)
  deriving DecidableEq, Repr

def Mismatch.message : Mismatch → String
  | .unopened written position =>
    "closing tag '[" ++ written ++ "]' at position " ++ toString position
      ++ " doesn't match any open tag"
  | .nothingOpen position =>
    "closing tag '[/]' at position " ++ toString position ++ " has nothing to close"

/-- Why a text cannot be laid out. -/
inductive Error
  | mismatch (cause : Mismatch)
  /-- A number in the style of a tag. -/
  | badNumber (cause : BadNumber)
  deriving DecidableEq, Repr

def Error.message : Error → String
  | .mismatch e => e.message
  | .badNumber e => e.message

/-! ## Cutting -/

/-- The characters up to the next `]`, if no `[` comes before it. -/
def upToClose : List Char → Option (List Char)
  | [] => none
  | c :: cs =>
    if c = ']' then some []
    else if c = '[' then none
    else (upToClose cs).map (c :: ·)

def startsTag (c : Char) : Bool :=
  ('a' ≤ c && c ≤ 'z') || c = '#' || c = '/' || c = '@'

/-- What stands between the brackets of the tag whose `[` is just before the characters. -/
def body? : List Char → Option (List Char)
  | [] => none
  | c :: cs => if startsTag c then (upToClose cs).map (c :: ·) else none

/-- The token of a tag with no backslash left before it. -/
def tag (written : List Char) (position : Nat) : Token :=
  match written.takeWhile (· ≠ '=') with
  | '/' :: name => .closing (Text.Chars.trim name) written position
  | name =>
    .opening name (match written.dropWhile (· ≠ '=') with
      | [] => none
      | _ :: parameters => some parameters)

def backslashes (n : Nat) : Token := .plain (List.replicate n '\\')

/-- The tokens of a text. `skip` counts the characters that belong to a tag already cut,
`run` the backslashes just passed, `position` the characters before those backslashes. -/
def cut (skip run position : Nat) : List Char → List Token
  | [] => [backslashes run]
  | c :: cs =>
    match skip with
    | skip + 1 => cut skip 0 (position + 1) cs
    | 0 =>
      if c = '\\' then cut 0 (run + 1) position cs
      else if c = '[' then
        match body? cs with
        | none => backslashes (run - 1) :: .plain ['['] :: cut 0 0 (position + run + 1) cs
        | some written =>
          let token :=
            if run % 2 = 1 then .plain ('[' :: written ++ [']'])
            else tag written (position + run / 2 * 2)
          backslashes (run / 2) :: token :: cut (written.length + 1) 0 (position + run + 1) cs
      else backslashes run :: .plain [c] :: cut 0 0 (position + run + 1) cs

def tokens (cs : List Char) : List Token := cut 0 0 0 cs

/-! ## Laying out -/

/-- Tags are told apart by the style that their name is; a name that is no style is compared
without regard to case and to blanks around it. -/
def normalName (cs : List Char) : Except BadNumber (List Char) :=
  match Console.Style.parse cs with
  | .ok s => .ok s.text
  | .error e =>
    match e.badNumber? with
    | some b => .error b
    | none => .ok (Text.Chars.lower (Text.Chars.trim cs))

/-- A stretch of the printed text under a tag in whose style a number cannot be read. It begins
where the tag is opened and stops where it is closed. -/
structure Span where
  start : Nat
  stop : Nat
  badNumber : BadNumber
  deriving DecidableEq, Repr

/-- A tag that is open, and the number of characters printed before it. -/
structure OpenTag where
  name : List Char
  start : Nat
  /-- The number that cannot be read in its style, which is the name together with the
  parameters. -/
  badNumber? : Option BadNumber
  deriving DecidableEq, Repr

namespace OpenTag

def ofName (name : List Char) (parameters : Option (List Char)) (start : Nat) :
    Except BadNumber OpenTag := do
  let name ← normalName name
  let style :=
    match parameters with
    | none => name
    | some parameters => name ++ ' ' :: parameters
  let bad :=
    match Console.Style.parse style with
    | .ok _ => none
    | .error e => e.badNumber?
  return ⟨name, start, bad⟩

/-- The span of the tag when it is closed, if it has a bad number. -/
def span? (tag : OpenTag) (stop : Nat) : Option Span :=
  tag.badNumber?.map fun bad => ⟨tag.start, stop, bad⟩

end OpenTag

/-- What tokens print: the characters, and the spans in the order in which they are closed. -/
structure Printed where
  text : List Char
  spans : List Span
  deriving DecidableEq, Repr

/-- The innermost open tag of that name, and the stack without it. -/
def close (name : List Char) : List OpenTag → Option (OpenTag × List OpenTag)
  | [] => none
  | tag :: stack =>
    if tag.name = name then some (tag, stack)
    else (close name stack).map fun (closed, stack) => (closed, tag :: stack)

/-- What the tokens print behind `position` other characters while the tags in the stack are
open. At the end the tags that are left are closed, the innermost first. -/
def print (stack : List OpenTag) (position : Nat) : List Token → Except Error Printed
  | [] => .ok ⟨[], stack.filterMap (·.span? position)⟩
  | .plain text :: ts =>
    let text := text.filter fun c => !Console.isSilent c
    (print stack (position + text.length) ts).map fun p => { p with text := text ++ p.text }
  | .opening name parameters :: ts =>
    match OpenTag.ofName name parameters position with
    | .error e => .error (.badNumber e)
    | .ok tag => print (tag :: stack) position ts
  | .closing name written place :: ts =>
    let closing (tag : OpenTag) (p : Printed) : Printed :=
      { p with spans := (tag.span? position).toList ++ p.spans }
    if name = [] then
      match stack with
      | [] => .error (.mismatch (.nothingOpen place))
      | tag :: stack => (print stack position ts).map (closing tag)
    else
      match normalName name with
      | .error e => .error (.badNumber e)
      | .ok name =>
        match close name stack with
        | none => .error (.mismatch (.unopened (String.ofList written) place))
        | some (tag, stack) => (print stack position ts).map (closing tag)

/-- What a text prints. -/
def render (cs : List Char) : Except Error Printed := print [] 0 (tokens cs)

end VersionStamp.Markup
