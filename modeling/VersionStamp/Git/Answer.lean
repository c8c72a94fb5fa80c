/-
Answers of git. A query finds a text or finds nothing; finding nothing is an
answer like any other, with the cause of it.
-/
import VersionStamp.Number.Significant

namespace VersionStamp.Git

/-- Why a query found nothing. -/
inductive Absence
  | noExecutable
  | timedOut (limit : Binary64)
  | undecodable
  | failed (text : String)
  | refused (text : String)
  /-- A non-zero exit code, and the first line of what git had to say, if it said anything. -/
  | exitCode (code : Int) (firstLine : Option String)
  | emptyOutput
  /-- A cause in words of its own. -/
  | stated (reason : String)
  deriving DecidableEq, Repr

def Absence.reason : Absence → String
  | .noExecutable => "git executable not found"
  | .timedOut limit => "timed out after " ++ limit.text ++ "s"
  | .undecodable => "git output is not valid UTF-8"
  | .failed t => "git failed: " ++ t
  | .refused t => "could not run git: " ++ t
  | .exitCode code none => "exit code " ++ toString code
  | .exitCode code (some l) => "exit code " ++ toString code ++ ": " ++ l
  | .emptyOutput => "empty output"
  | .stated r => r

/-- What a query comes to. -/
inductive Answer
  | found (value : String)
  | absent (cause : Absence)
  deriving DecidableEq, Repr

namespace Answer

def isFound : Answer → Bool
  | .found _ => true
  | .absent _ => false

/-- The text found. -/
def value? : Answer → Option String
  | .found v => some v
  | .absent _ => none

def map (f : String → String) : Answer → Answer
  | .found v => .found (f v)
  | .absent a => .absent a

end Answer
end VersionStamp.Git
