/-
The version of the program itself, resolved like any other from the checkout
that it runs from.
-/
import VersionStamp.Version.Resolver

namespace VersionStamp.Own

def packageVersion : String := "1.0.0"

/-- The package version, followed by the revision and the branch as far as they are known. -/
def describe (info : VersionInfo) : String :=
  if info.revision = VersionInfo.dirty then packageVersion
  else
    match info.branch with
    | none => packageVersion ++ " (" ++ info.revision ++ ")"
    | some b =>
      if b = "" then packageVersion ++ " (" ++ info.revision ++ ")"
      else packageVersion ++ " (" ++ info.revision ++ ", " ++ b ++ ")"

def resolver (installation : String) : Resolver where
  directory := installation
  baseVersion := packageVersion
  suffix := ""

def version : Action String := do
  let w ← Action.world
  return describe (← (resolver w.installation).compute false)

end VersionStamp.Own
