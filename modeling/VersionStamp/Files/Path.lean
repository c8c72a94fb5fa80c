/-
Paths as text.

`components` cuts a path at its slashes. `Location` is an absolute path
without `.`, `..`, doubled or trailing slashes: what `ofPath` makes of any
path by its text alone, without a look at the files. Two slashes at the very
front, and not three, are kept: they may mean something of their own.
-/
import VersionStamp.Text.Split

namespace VersionStamp

/-- Names from the root down. -/
abbrev Place := List String

namespace Path

namespace Chars

/-- The last component, and what stands in front of it less the slashes at the end; if that
is nothing but slashes, it is kept. -/
def split (cs : List Char) : List Char × List Char :=
  let last := (cs.reverse.takeWhile (· ≠ '/')).reverse
  let front := (cs.reverse.dropWhile (· ≠ '/')).reverse
  let bare := (front.reverse.dropWhile (· = '/')).reverse
  (if bare = [] then front else bare, last)

end Chars

/-- The stretches between the slashes; one more than there are slashes. -/
def components (path : String) : List String :=
  (Text.Chars.split '/' path.toList).map String.ofList

def isAbsolute (path : String) : Bool := path.toList.head? = some '/'

/-- A path that is read in a directory; an absolute one stands on its own. -/
def join (directory path : String) : String :=
  if isAbsolute path then path
  else if directory = "" ∨ directory.toList.getLast? = some '/' then directory ++ path
  else directory ++ "/" ++ path

end Path

/-- An absolute path in its shortest form. -/
structure Location where
  /-- Whether the path starts with two slashes. -/
  doubled : Bool := false
  names : Place
  deriving DecidableEq, Repr

namespace Location

def text (l : Location) : String :=
  (if l.doubled then "//" else "/") ++ "/".intercalate l.names

/-- The directory above; the root is above itself. -/
def parent (l : Location) : Location := { l with names := l.names.dropLast }

/-- One component read after the names so far. -/
def step (names : Place) (component : String) : Place :=
  if component = "" ∨ component = "." then names
  else if component = ".." then names.dropLast
  else names ++ [component]

/-- The location that a path names for someone who stands at `here`. -/
def ofPath (here : Place) (path : String) : Location :=
  let slashes := (path.toList.takeWhile (· = '/')).length
  let start := if slashes = 0 then here else []
  { doubled := slashes = 2
    names := (Path.components path).foldl step start }

end Location

/-- The text of the directory at a place. -/
def Place.text (p : Place) : String := Location.text { names := p }

end VersionStamp
