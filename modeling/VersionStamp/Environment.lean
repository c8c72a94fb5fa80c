/-
Environment variables, and the names of those that the program reads.
-/
import VersionStamp.Ledger

namespace VersionStamp

/-- The variables of a process, by name. -/
abbrev Environment := Ledger String String

namespace Environment

def baseVersion : String := "BUILDSTAMP_BASE_VERSION"
def suffix : String := "BUILDSTAMP_SUFFIX"
def releaseTask : String := "BUILDSTAMP_RELEASE_TASK"
def gitTimeout : String := "BUILDSTAMP_GIT_TIMEOUT"
def logDirectory : String := "BUILDSTAMP_LOG_DIR"
def directory : String := "BUILDSTAMP_DIR"
def home : String := "HOME"

/-- The variables that the program reads. -/
def names : List String :=
  [baseVersion, suffix, releaseTask, gitTimeout, logDirectory, directory, home]

/-- The value of a variable; an unset one reads as the empty text. -/
def text (env : Environment) (name : String) : String := (env.get? name).getD ""

end Environment
end VersionStamp
