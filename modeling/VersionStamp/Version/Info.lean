/-
Version information: what a build embeds. The branch is for people to read;
two resolutions that differ in the branch alone are the same version.
-/
import VersionStamp.Text.Quoted

namespace VersionStamp

/-- What a build is for. -/
inductive Mode
  | release
  | snapshot
  deriving DecidableEq, Repr

namespace Mode

def ofFlag (release : Bool) : Mode := if release then .release else .snapshot

def text : Mode → String
  | .release => "release"
  | .snapshot => "snapshot"

/-- A text that names no mode. -/
structure Unknown where
  text : String
  deriving DecidableEq, Repr

def Unknown.message (u : Unknown) : String := Text.quoted u.text ++ " is not a valid Mode"

def ofText (s : String) : Except Unknown Mode :=
  if s = "release" then .ok .release
  else if s = "snapshot" then .ok .snapshot
  else .error ⟨s⟩

theorem ofText_text (m : Mode) : ofText m.text = .ok m := by cases m <;> rfl

end Mode

/-- The texts that a build embeds. -/
structure VersionInfo where
  baseVersion : String
  suffix : String
  mode : Mode
  revision : String
  displayVersion : String
  branch : Option String := none
  deriving DecidableEq, Repr

/-- The version with the suffix behind a hyphen; nothing is added for an empty suffix. -/
def joinSuffix (version suffix : String) : String :=
  if suffix = "" then version else version ++ "-" ++ suffix

/-- The release task has to be among the tasks exactly. -/
def isReleaseRequested (tasks : List String) (releaseTask : String) : Bool :=
  tasks.contains releaseTask

namespace VersionInfo

/-- The revision of a snapshot that git could not describe. -/
def dirty : String := "dirty"

def isRelease (info : VersionInfo) : Bool := info.mode = .release

/-- Equal in all but the branch. -/
def sameVersion (a b : VersionInfo) : Bool :=
  { a with branch := none } = { b with branch := none }

/-- The branch as it is shown: none and the empty one are unknown. -/
def shownBranch (info : VersionInfo) : String :=
  match info.branch with
  | none => "unknown"
  | some b => if b = "" then "unknown" else b

/-- What the build says it is building, in one line. -/
def summary (info : VersionInfo) : String :=
  if info.isRelease then
    "Building RELEASE (" ++ info.shownBranch ++ "): " ++ info.displayVersion
  else if info.revision = dirty then "Building SNAPSHOT (no .git folder found)"
  else "Building SNAPSHOT (" ++ info.shownBranch ++ "): " ++ info.revision

end VersionInfo
end VersionStamp
