/-
The checkout that encloses a directory: the nearest directory, from the one
asked about up to the root, that holds an entry `.git`. A file will do, as
work trees have one. Where no directory does, the one asked about stands in.
-/
import VersionStamp.World

namespace VersionStamp.Checkout

/-- The home directory of whoever runs the program. -/
def homeOf (w : World) : Option String :=
  match w.env.get? Environment.home with
  | some home => some home
  | none => w.accountHome

/-- A path that starts with `~` alone or before a slash, read from the home directory. Other
paths stand for themselves; so do those with a name behind the `~`, as no account is known by
name. -/
def expandHome (w : World) (path : String) : Except FileError String :=
  match path.toList with
  | '~' :: cs =>
    let name := cs.takeWhile (· ≠ '/')
    let rest := cs.dropWhile (· ≠ '/')
    if name = [] then
      match homeOf w with
      | none => .ok path
      | some home =>
        let bare := (home.toList.reverse.dropWhile (· = '/')).reverse
        .ok (if bare ++ rest = [] then "/" else String.ofList (bare ++ rest))
    else if name.contains '\x00' then .error .embeddedNul
    else .ok path
  | _ => .ok path

/-- Whether a directory holds an entry `.git`. -/
def isMarked (files : FileTree) (here : Place) (l : Location) : Bool :=
  files.holds here (Path.join l.text ".git")

/-- The first marked directory from a location upwards. -/
def nearest (marked : Location → Bool) (l : Location) : Option Location :=
  if marked l then some l
  else if l.names = [] then none
  else nearest marked l.parent
termination_by l.names.length
decreasing_by
  rename_i h
  have := List.length_pos_iff.2 h
  simp only [Location.parent, List.length_dropLast]
  omega

/-- The checkout that encloses a location. -/
def enclosing (w : World) (start : Location) : Location :=
  (nearest (isMarked w.files w.here) start).getD start

/-- The checkout that encloses the directory that a path names. -/
def locate (w : World) (path : String) : Except FileError Location :=
  match expandHome w path with
  | .error e => .error e
  | .ok path => .ok (enclosing w (Location.ofPath w.here path))

end VersionStamp.Checkout
