/-
The command line.

The files that the command and the environment name are read beforehand, and
what the command changes among them is written afterwards. No process is
started: the answers of git are the first two lines of standard input, what is
checked out and then the described tag, where a line that is blank or missing
finds nothing.
-/
import Std.Time.DateTime.Timestamp
import VersionStamp.CommandLine.Perform

namespace VersionStamp.Main

/-- What stands at a path of the machine. -/
def entryAt (path : String) : IO (Option Entry) := do
  try
    if ← (← IO.FS.realPath path).isDir then return some .directory
    return some (.file (← IO.FS.readBinFile path))
  catch _ => return none

/-- The tree with whatever stands at a place of the machine. -/
def look (t : FileTree) (p : Place) : IO FileTree := do
  match ← entryAt p.text with
  | some e => return if p = [] then t else t.put p e
  | none => return t

/-- The tree with the entries on the way to a path, and the mark of a checkout in each
directory. -/
def survey (here : Place) (t : FileTree) (path : String) : IO FileTree := do
  let names := (Location.ofPath here path).names
  (List.range (names.length + 1)).foldlM (fun t n => do
    let t ← look t (names.take n)
    look t (names.take n ++ [".git"])) t

/-- Writes the entry of a place to the machine if it is not what was found there. -/
def settle (before : FileTree) (p : Place) (e : Entry) : IO Unit := do
  match before.get? p, e with
  | some .directory, .directory => pure ()
  | _, .directory => IO.FS.createDir p.text
  | some (.file old), .file new =>
    if old.toList ≠ new.toList then IO.FS.writeBinFile p.text new
  | _, .file new => IO.FS.writeBinFile p.text new

def environment : IO Environment := do
  let mut env : Environment := []
  for name in Environment.names do
    if let some value ← IO.getEnv name then env := env.put name value
  return env

/-- An ending of git that wrote one line. -/
def ending (line : String) : Git.Ending := .exited 0 line.toUTF8 .empty

def git (asks : Bool) : IO Git := do
  if asks then
    let input ← IO.getStdin
    let branch ← input.getLine
    let described ← input.getLine
    return { endings := [("rev-parse", ending branch), ("describe", ending described)] }
  else return {}

/-- The paths that a command may look at: those it names, those of the environment, and the log
file. -/
def pathsOf (w : World) (invocation : CommandLine.Invocation) : List String :=
  let logDirectory := Log.directoryFor w.env ""
  let logs := [logDirectory, Text.trim logDirectory].map (Path.join · Log.fileName)
  let given := w.here.text :: w.env.text Environment.directory :: invocation.paths ++ logs
  given ++ given.filterMap fun path => (Checkout.expandHome w path).toOption

def world (invocation : CommandLine.Invocation) : IO World := do
  let env ← environment
  let here := (Location.ofPath [] (← IO.currentDir).toString).names
  let git ← git invocation.asksGit
  let seconds := (← Std.Time.Timestamp.now).toSecondsSinceUnixEpoch.val.toNat
  let w : World :=
    { here, env, git, now := .utc seconds, installation := (← IO.appDir).toString }
  return { w with files := ← (pathsOf w invocation).foldlM (survey here) w.files }

def start (invocation : CommandLine.Invocation) : IO UInt32 := do
  let w ← world invocation
  let report := invocation.perform.run w
  IO.print report.output
  IO.eprint report.errors
  for (p, e) in report.files.entries do settle w.files p e
  match report.result with
  | .ok status => return UInt32.ofNat status.code
  | .error fault =>
    IO.eprintln fault.message
    return 1

end VersionStamp.Main

def main (words : List String) : IO UInt32 := do
  match VersionStamp.CommandLine.Invocation.parse words with
  | .ok invocation => VersionStamp.Main.start invocation
  | .error e =>
    IO.eprintln e.message
    return 2
