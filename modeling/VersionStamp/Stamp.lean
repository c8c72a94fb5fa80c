/-
Stamped files: version information written to a properties file and read back.
-/
import VersionStamp.Action
import VersionStamp.Files.Directories
import VersionStamp.Properties.Render

namespace VersionStamp.Stamp

/-- Writes the version information to the file that a path names, and makes the directories
above it. The result is the location written, as text. -/
def store (info : VersionInfo) (path : String) (w : World) : FileTree × Except FileError String :=
  let l := Location.ofPath w.here path
  match w.files.createDirectories w.here l.parent.text.toList with
  | (t, .error e) => (t, .error e)
  | (t, .ok _) =>
    match t.write w.here l.text (Properties.render info w.now).toUTF8 with
    | .ok t' => (t', .ok l.text)
    | .error e => (t, .error e)

def write (info : VersionInfo) (path : String) : Action String :=
  Action.orFault (Action.onFiles (store info path))

/-- The entries of octets, read as text. -/
def entriesOf (path : String) (octets : ByteArray) : Except PropertiesError Properties.Entries :=
  match Text.Utf8.decode octets with
  | .error position => .error (.notUtf8 path position)
  | .ok s =>
    match Properties.parse (Text.unifyBreaks s) with
    | .error line => .error (.badLine line)
    | .ok entries => .ok entries

/-- The entries of the properties file that a path names. -/
def load (w : World) (path : String) : Except Fault Properties.Entries :=
  match w.files.read w.here path with
  | .error .embeddedNul => .error (.file .embeddedNul)
  | .error (.refused cause _) => .error (.properties (.unreadable path cause))
  | .ok octets =>
    match entriesOf path octets with
    | .error e => .error (.properties e)
    | .ok entries => .ok entries

def read (path : String) : Action Properties.Entries := do
  let w ← Action.world
  Action.ofExcept (load w path)

end VersionStamp.Stamp
