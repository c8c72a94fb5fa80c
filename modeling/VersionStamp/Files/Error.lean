/-
Errors of the file system.
-/
import VersionStamp.Text.Quoted

namespace VersionStamp

/-- Why the operating system refuses. -/
inductive Refusal
  | noEntry
  | entryExists
  | notDirectory
  | isDirectory
  | nameTooLong
  deriving DecidableEq, Repr

namespace Refusal

def number : Refusal → Nat
  | .noEntry => 2
  | .entryExists => 17
  | .notDirectory => 20
  | .isDirectory => 21
  | .nameTooLong => 36

def text : Refusal → String
  | .noEntry => "No such file or directory"
  | .entryExists => "File exists"
  | .notDirectory => "Not a directory"
  | .isDirectory => "Is a directory"
  | .nameTooLong => "File name too long"

end Refusal

/-- Why nothing can be done with a path. -/
inductive FileError
  /-- A path that holds NUL never reaches the operating system. -/
  | embeddedNul
  | refused (cause : Refusal) (path : String)
  deriving DecidableEq, Repr

def FileError.message : FileError → String
  | .embeddedNul => "embedded null byte"
  | .refused cause path =>
    "[Errno " ++ toString cause.number ++ "] " ++ cause.text ++ ": " ++ Text.quoted path

end VersionStamp
