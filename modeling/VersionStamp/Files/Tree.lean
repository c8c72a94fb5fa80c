/-
A tree of files and directories, and the operations of the system on it.

Paths are followed one component at a time: a component is looked up in a
directory that has to be there, `.` stays and `..` goes up, so a path through
a missing directory leads nowhere even where its text would cancel out.
Names have at most 255 octets and paths fewer than 4096.

`get?_put_self` and `get?_put_other` are the frame laws: putting an entry at a
place changes what is found at that place and nowhere else.
-/
import VersionStamp.Files.Error
import VersionStamp.Files.Path
import VersionStamp.Ledger

namespace VersionStamp

/-- What is at a place. -/
inductive Entry
  | directory
  | file (content : ByteArray)

/-- Entries by place. The root is always a directory and is not listed. -/
structure FileTree where
  entries : Ledger Place Entry := []

namespace FileTree

def get? (t : FileTree) (p : Place) : Option Entry :=
  if p = [] then some .directory else t.entries.get? p

def put (t : FileTree) (p : Place) (e : Entry) : FileTree := { t with entries := t.entries.put p e }

def erase (t : FileTree) (p : Place) : FileTree := { t with entries := t.entries.erase p }

theorem get?_put_self (t : FileTree) {p : Place} (hp : p ≠ []) (e : Entry) :
    (t.put p e).get? p = some e := by
  simp [get?, put, hp, Ledger.get?_put_self]

theorem get?_put_other (t : FileTree) {p q : Place} (e : Entry) (hne : q ≠ p) :
    (t.put p e).get? q = t.get? q := by
  simp only [get?, put]
  split
  · rfl
  · exact Ledger.get?_put_other _ _ hne

/-! ## Following a path -/

/-- A name of more than 255 octets cannot be looked up. -/
def tooLong (name : String) : Bool := 255 < name.utf8ByteSize

/-- One component looked up at a place, which has to be a directory. -/
def enter (t : FileTree) (here : Place) (component : String) : Except Refusal Place :=
  match t.get? here with
  | none => .error .noEntry
  | some (.file _) => .error .notDirectory
  | some .directory =>
    if component = "" ∨ component = "." then .ok here
    else if component = ".." then .ok here.dropLast
    else if tooLong component then .error .nameTooLong
    else if (t.get? (here ++ [component])).isSome then .ok (here ++ [component])
    else .error .noEntry

/-- The place that components lead to. -/
def follow (t : FileTree) (here : Place) : List String → Except Refusal Place
  | [] => .ok here
  | c :: cs =>
    match t.enter here c with
    | .error e => .error e
    | .ok next => follow t next cs

/-- Where a path starts. -/
def startOf (here : Place) (path : String) : Place := if Path.isAbsolute path then [] else here

/-- What the system asks of any path before it follows it. -/
def accept (path : String) : Except FileError Unit :=
  if path.toList.contains '\x00' then .error .embeddedNul
  else if 4096 ≤ path.utf8ByteSize then .error (.refused .nameTooLong path)
  else if path = "" then .error (.refused .noEntry path)
  else .ok ()

/-- The error of a refusal for the path that was given. -/
def refuse {α : Type} (path : String) : Except Refusal α → Except FileError α
  | .ok a => .ok a
  | .error r => .error (.refused r path)

/-- The place of the entry that a path names. -/
def find (t : FileTree) (here : Place) (path : String) : Except FileError Place :=
  match accept path with
  | .error e => .error e
  | .ok _ => refuse path (t.follow (startOf here path) (Path.components path))

/-- Whether a path names an entry. -/
def holds (t : FileTree) (here : Place) (path : String) : Bool :=
  match t.find here path with
  | .ok _ => true
  | .error _ => false

def isDirectory (t : FileTree) (here : Place) (path : String) : Bool :=
  match t.find here path with
  | .ok p =>
    match t.get? p with
    | some .directory => true
    | _ => false
  | .error _ => false

/-! ## Reading and writing -/

/-- The content of the file that a path names. -/
def read (t : FileTree) (here : Place) (path : String) : Except FileError ByteArray :=
  match t.find here path with
  | .error e => .error e
  | .ok p =>
    match t.get? p with
    | some (.file content) => .ok content
    | some .directory => .error (.refused .isDirectory path)
    | none => .error (.refused .noEntry path)

/-- The directory in which the last component of a path is to be looked up, and that component. -/
def findParent (t : FileTree) (here : Place) (components : List String) :
    Except Refusal (Place × String) :=
  match t.follow here components.dropLast with
  | .error e => .error e
  | .ok parent =>
    match t.get? parent with
    | some .directory => .ok (parent, components.getLastD "")
    | some (.file _) => .error .notDirectory
    | none => .error .noEntry

/-- The file that opening a path for writing makes or finds, and its content so far. -/
def target (t : FileTree) (here : Place) (components : List String) :
    Except Refusal (Place × ByteArray) :=
  match t.findParent here components with
  | .error e => .error e
  | .ok (parent, name) =>
    if name = "" ∨ name = "." ∨ name = ".." then .error .isDirectory
    else if tooLong name then .error .nameTooLong
    else
      match t.get? (parent ++ [name]) with
      | some .directory => .error .isDirectory
      | some (.file content) => .ok (parent ++ [name], content)
      | none => .ok (parent ++ [name], .empty)

/-- Writes to the file that a path names; `content` is made from what the file held before,
nothing for a new one. -/
def modify (t : FileTree) (here : Place) (path : String) (content : ByteArray → ByteArray) :
    Except FileError FileTree :=
  match accept path with
  | .error e => .error e
  | .ok _ =>
    match refuse path (t.target (startOf here path) (Path.components path)) with
    | .error e => .error e
    | .ok (p, before) => .ok (t.put p (.file (content before)))

/-- The file holds exactly the content afterwards. -/
def write (t : FileTree) (here : Place) (path : String) (content : ByteArray) :
    Except FileError FileTree :=
  t.modify here path fun _ => content

/-- The content is added behind what the file holds. -/
def append (t : FileTree) (here : Place) (path : String) (content : ByteArray) :
    Except FileError FileTree :=
  t.modify here path (· ++ content)

/-! ## Directories -/

/-- The components of a path less the empty ones at its end. -/
def withoutTrailing (components : List String) : List String :=
  (components.reverse.dropWhile (· = "")).reverse

/-- A new directory at the place that components lead to. -/
def makeAt (t : FileTree) (here : Place) (components : List String) : Except Refusal FileTree :=
  match t.findParent here components with
  | .error e => .error e
  | .ok (parent, name) =>
    if name = "" ∨ name = "." ∨ name = ".." then .error .entryExists
    else if tooLong name then .error .nameTooLong
    else if (t.get? (parent ++ [name])).isSome then .error .entryExists
    else .ok (t.put (parent ++ [name]) .directory)

/-- Makes one directory; its parent has to be there. -/
def makeDirectory (t : FileTree) (here : Place) (path : String) : Except FileError FileTree :=
  match accept path with
  | .error e => .error e
  | .ok _ =>
    refuse path (t.makeAt (startOf here path) (withoutTrailing (Path.components path)))

end FileTree
end VersionStamp
