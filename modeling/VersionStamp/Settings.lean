/-
Settings, and how the environment sets them.

Each variable is trimmed. An empty base version, release task or timeout
counts as unset; an empty suffix is kept and means no suffix. The timeout has
to be a number, and not one that is nought or less.
-/
import VersionStamp.Environment
import VersionStamp.Number.Decimal
import VersionStamp.Text.Blank

namespace VersionStamp

/-- What a build's version is made from, and how it is asked for. -/
structure Settings where
  baseVersion : String := "3.0.0"
  suffix : String := "SNAPSHOT"
  /-- Asking for this task makes the build a release. -/
  releaseTask : String := "release"
  /-- Seconds that a query to git may take. -/
  gitTimeout : Binary64 := .finite false (5 * Binary64.unitsPerOne)
  /-- Where the log file goes; empty for nowhere. -/
  logDirectory : String := ""
  deriving DecidableEq, Repr

/-- Why the environment gives no settings. -/
inductive ConfigError
  | timeoutNotNumber (text : String)
  | timeoutNotPositive (text : String)
  deriving DecidableEq, Repr

def ConfigError.message : ConfigError → String
  | .timeoutNotNumber t => Environment.gitTimeout ++ " must be a number, got '" ++ t ++ "'"
  | .timeoutNotPositive t => Environment.gitTimeout ++ " must be positive, got '" ++ t ++ "'"

namespace Settings

def initial : Settings := {}

/-- The text, or the other one where it is empty. -/
def orElse (text other : String) : String := if text = "" then other else text

/-- The timeout that a trimmed text asks for. -/
def timeoutOf (text : String) : Except ConfigError Binary64 :=
  match Decimal.read? text with
  | none => .error (.timeoutNotNumber text)
  | some seconds =>
    if seconds.le .zero then .error (.timeoutNotPositive text) else .ok seconds

/-- The settings that the environment asks for. -/
def ofEnvironment (env : Environment) : Except ConfigError Settings :=
  let trimmed (name : String) := Text.trim (env.text name)
  let timeout := trimmed Environment.gitTimeout
  match if timeout = "" then .ok initial.gitTimeout else timeoutOf timeout with
  | .error e => .error e
  | .ok seconds =>
    .ok {
      baseVersion := orElse (trimmed Environment.baseVersion) initial.baseVersion
      suffix := Text.trim ((env.get? Environment.suffix).getD initial.suffix)
      releaseTask := orElse (trimmed Environment.releaseTask) initial.releaseTask
      gitTimeout := seconds
      logDirectory := trimmed Environment.logDirectory }

end Settings
end VersionStamp
