/-
The commands at work.

Options win over the environment: a base version if it is not empty, a suffix
even if it is. Settings that cannot be used, a file that cannot be written and
one that cannot be read are reported on the error stream, and the command
fails; anything else that goes wrong is a fault.
-/
import VersionStamp.Checkout
import VersionStamp.CommandLine.Invocation
import VersionStamp.Console.Escape
import VersionStamp.Json
import VersionStamp.Stamp
import VersionStamp.Version.Own

namespace VersionStamp.CommandLine

inductive ExitStatus
  | success
  | failure
  deriving DecidableEq, Repr

def ExitStatus.code : ExitStatus → Nat
  | .success => 0
  | .failure => 1

/-- Reports an error; the command fails. -/
def complain (message : String) : Action ExitStatus := do
  Action.print .errors ("ERROR: " ++ message)
  return .failure

namespace ResolveOptions

/-- The settings with the options given put over them. -/
def override (o : ResolveOptions) (s : Settings) : Settings :=
  { s with
    baseVersion := Settings.orElse (o.baseVersion.getD "") s.baseVersion
    suffix := o.suffix.getD s.suffix }

/-- The directory asked about: the option, else the variable, else where one stands. -/
def startIn (o : ResolveOptions) (w : World) : String :=
  Settings.orElse (o.directory.getD (w.env.text Environment.directory)) w.here.text

def wantsRelease (o : ResolveOptions) (s : Settings) : Bool :=
  o.release || isReleaseRequested o.tasks s.releaseTask

/-- Resolves the version with usable settings. -/
def resolveWith (o : ResolveOptions) (s : Settings) (stream : Stream) : Action VersionInfo := do
  let w ← Action.world
  let checkout ← Action.ofExcept ((Checkout.locate w (o.startIn w)).mapError Fault.file)
  (Resolver.ofSettings checkout.text (o.override s)).resolve (o.wantsRelease s) stream

/-- Resolves the version and goes on with it; without usable settings the command fails. -/
def resolving (o : ResolveOptions) (stream : Stream) (next : VersionInfo → Action ExitStatus) :
    Action ExitStatus := do
  let w ← Action.world
  match Settings.ofEnvironment w.env with
  | .error e => complain e.message
  | .ok s => next (← o.resolveWith s stream)

end ResolveOptions

/-- Writes the version alone, as text for no terminal; all else goes to the error stream. -/
def printVersion (o : ResolveOptions) : Action ExitStatus :=
  o.resolving .errors fun info => do
    Action.write .output (Console.plain info.displayVersion ++ "\n")
    return .success

def resolve (o : ResolveOptions) : Action ExitStatus :=
  o.resolving (if o.json then .errors else .output) fun info => do
    if o.json then
      Action.write .output (Json.ofInfo info ++ "\n")
    else
      Action.print .output ("  revision: " ++ Settings.orElse info.revision "(none)")
      Action.print .output ("  version:  " ++ info.displayVersion)
    return .success

def stamp (output : String) (o : ResolveOptions) : Action ExitStatus :=
  o.resolving .output fun info => do
    match ← Action.onFiles (Stamp.store info output) with
    | .error .embeddedNul => Action.fail (.file .embeddedNul)
    | .error e => complain ("cannot write " ++ output ++ ": " ++ e.message)
    | .ok path =>
      Log.log ("Wrote " ++ path) .output ""
      return .success

/-- Prints the entries one a line. -/
def printEntries : List (String × String) → Action Unit
  | [] => pure ()
  | (key, value) :: entries => do
    Action.print .output (key ++ "=" ++ value)
    printEntries entries

def showFile (path : String) : Action ExitStatus := do
  let w ← Action.world
  match Stamp.load w path with
  | .error (.properties e) => complain e.message
  | .error e => Action.fail e
  | .ok entries =>
    printEntries entries
    return .success

def Command.perform : Command → Action ExitStatus
  | .printVersion o => CommandLine.printVersion o
  | .resolve o => CommandLine.resolve o
  | .stamp output o => CommandLine.stamp output o
  | .show_ path => CommandLine.showFile path

def Invocation.perform : Invocation → Action ExitStatus
  | .version => do
    Action.print .output (← Own.version)
    return .success
  | .command c => c.perform

/-- Whether the invocation puts queries to git. -/
def Invocation.asksGit : Invocation → Bool
  | .command (.show_ _) => false
  | _ => true

/-- The paths that the invocation names. -/
def Invocation.paths : Invocation → List String
  | .version => []
  | .command (.printVersion o) => o.directory.toList
  | .command (.resolve o) => o.directory.toList
  | .command (.stamp output o) => output :: o.directory.toList
  | .command (.show_ path) => [path]

/-- What a command line does, or what is wrong with it. -/
def run (words : List String) : Except UsageError (Action ExitStatus) :=
  (Invocation.parse words).map Invocation.perform

end VersionStamp.CommandLine
