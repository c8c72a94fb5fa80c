/-
The world that the program runs in, and the faults that end what it does.
-/
import VersionStamp.Console.Layout
import VersionStamp.Environment
import VersionStamp.Files.Tree
import VersionStamp.Git.Ending
import VersionStamp.Properties.Entries
import VersionStamp.Properties.Moment

namespace VersionStamp

structure World where
  files : FileTree := {}
  /-- The working directory. -/
  here : Place := []
  env : Environment := []
  git : Git := {}
  now : Moment
  /-- The checkout that the program itself runs from. -/
  installation : String
  /-- The home directory in the account database, for an environment without one. -/
  accountHome : Option String := none

/-- Why a properties file gives no entries. -/
inductive PropertiesError
  | unreadable (path : String) (cause : Refusal)
  | notUtf8 (path : String) (position : Nat)
  | badLine (line : Properties.BadLine)
  deriving DecidableEq, Repr

def PropertiesError.message : PropertiesError → String
  | .unreadable path cause => "cannot read " ++ path ++ ": " ++ cause.text
  | .notUtf8 path position =>
    "cannot read " ++ path ++ ": not valid UTF-8 at byte " ++ toString position
  | .badLine line => line.message

/-- What ends an action before it has a result. -/
inductive Fault
  | properties (error : PropertiesError)
  | file (error : FileError)
  | console (error : Console.Error)
  /-- A failure of git that no caller expects. -/
  | git (text : String)
  deriving DecidableEq, Repr

def Fault.message : Fault → String
  | .properties e => e.message
  | .file e => e.message
  | .console e => e.message
  | .git t => t

/-- A stream that text is printed on. -/
inductive Stream
  | output
  | errors
  deriving DecidableEq, Repr

end VersionStamp
