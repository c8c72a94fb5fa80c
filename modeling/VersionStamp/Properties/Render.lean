/-
Version information written as properties: a comment with the moment of
writing, then the display version, the revision and the mode.
-/
import VersionStamp.Properties.Moment
import VersionStamp.Version.Info

namespace VersionStamp.Properties

def versionKey : String := "application.version"
def revisionKey : String := "git.revision"
def modeKey : String := "build.mode"

/-- The three entries that stand for version information, in the order in which they are
written. -/
def entriesOf (info : VersionInfo) : List (String × String) :=
  [(versionKey, info.displayVersion), (revisionKey, info.revision), (modeKey, info.mode.text)]

/-- Each entry as a line of its own. -/
def renderEntries (entries : List (String × String)) : String :=
  String.join (entries.map fun e => e.1 ++ "=" ++ e.2 ++ "\n")

/-- The text of a properties file for the version information. -/
def render (info : VersionInfo) (now : Moment) : String :=
  "# Generated by buildstamp on " ++ now.text ++ "\n" ++ renderEntries (entriesOf info)

end VersionStamp.Properties
