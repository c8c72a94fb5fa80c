/-
Messages on the console, and in a log file if one is asked for.

The log directory is the one given, else the one in the environment. Trouble
with the log file is no reason to stop a build: it is passed over. A message
that cannot be printed is not logged either.
-/
import VersionStamp.Action
import VersionStamp.Files.Directories

namespace VersionStamp.Log

def fileName : String := "buildstamp.log"

/-- The log directory that is asked for; empty for none. -/
def directoryFor (env : Environment) (given : String) : String :=
  if given = "" then env.text Environment.logDirectory else given

/-- The log directory, made if it is not there; empty for none. -/
def prepare (given : String) (w : World) : FileTree × Except FileError String :=
  let directory := directoryFor w.env given
  if directory = "" then (w.files, .ok directory)
  else
    match w.files.createDirectories w.here directory.toList with
    | (t, .ok _) => (t, .ok directory)
    | (t, .error e) => (t, .error e)

/-- The log directory as an action of its own. -/
def directory (given : String) : Action String := Action.orFault (Action.onFiles (prepare given))

/-- Adds the message as a line to the log file. -/
def record (given message : String) (w : World) : FileTree × Except FileError Unit :=
  match prepare given w with
  | (t, .error e) => (t, .error e)
  | (t, .ok directory) =>
    if directory = "" then (t, .ok ())
    else
      match t.append w.here (Path.join directory fileName) (message ++ "\n").toUTF8 with
      | .ok t' => (t', .ok ())
      | .error e => (t, .error e)

/-- Prints the message, in a style if one is asked for, and logs it. -/
def log (message : String) (stream : Stream) (given : String) (style : String := "") :
    Action Unit := do
  Action.print stream message style
  match ← Action.onFiles (record given message) with
  | .error .embeddedNul => Action.fail (.file .embeddedNul)
  | _ => pure ()

end VersionStamp.Log
