/-
Resolving a version: the branch is asked for always, the described tag for
snapshots only. What git cannot tell is no failure; the fallbacks are the base
version and the revision `dirty`.
-/
import VersionStamp.Git.Describe
import VersionStamp.Log
import VersionStamp.Settings
import VersionStamp.Version.Info

namespace VersionStamp

/-- What it takes to resolve the version of one checkout. -/
structure Resolver where
  directory : String
  baseVersion : String := Settings.initial.baseVersion
  suffix : String := Settings.initial.suffix
  timeout : Binary64 := Settings.initial.gitTimeout
  runner : Git.Runner := .process
  logDirectory : String := ""
  deriving DecidableEq, Repr

namespace Resolver

def ofSettings (directory : String) (s : Settings) (runner : Git.Runner := .process) : Resolver where
  directory := directory
  baseVersion := s.baseVersion
  suffix := s.suffix
  timeout := s.gitTimeout
  runner := runner
  logDirectory := s.logDirectory

/-- A query to this resolver's git about its checkout. -/
def query (r : Resolver) (arguments : List String) : Git.Query :=
  ⟨r.runner, r.directory, arguments, r.timeout⟩

def describeQuery (r : Resolver) : Git.Query := r.query Git.describeArguments

def branchQuery (r : Resolver) : Git.Query := r.query Git.branchArguments

/-- The nearest tag of the checkout as git describes it, in compact form. -/
def describeTag (r : Resolver) : Action Git.Answer := do
  return (← Action.ask r.describeQuery).map Git.compact

/-- What is checked out. -/
def currentBranch (r : Resolver) : Action Git.Answer := Action.ask r.branchQuery

/-- A release is made from the base version alone. -/
def releaseInfo (r : Resolver) (branch : Option String) : VersionInfo where
  baseVersion := r.baseVersion
  suffix := r.suffix
  mode := .release
  revision := ""
  displayVersion := joinSuffix r.baseVersion r.suffix
  branch := branch

/-- A snapshot is made from the described tag, or from the base version where there is none. -/
def snapshotInfo (r : Resolver) (branch : Option String) (described : Git.Answer) : VersionInfo where
  baseVersion := r.baseVersion
  suffix := r.suffix
  mode := .snapshot
  revision := described.value?.getD VersionInfo.dirty
  displayVersion := joinSuffix (described.value?.getD r.baseVersion) r.suffix
  branch := branch

/-- Resolves without a word. -/
def compute (r : Resolver) (release : Bool) : Action VersionInfo := do
  let branch ← r.currentBranch
  if release then
    return r.releaseInfo branch.value?
  else
    let described ← r.describeTag
    return r.snapshotInfo branch.value? described

/-- Resolves, and says so in one line. -/
def resolve (r : Resolver) (release : Bool) (stream : Stream) : Action VersionInfo := do
  let info ← r.compute release
  Log.log info.summary stream r.logDirectory
  return info

end Resolver
end VersionStamp
