/-
What a command line asks for: the program's own version, or one of the four
commands with its options.

The program's options stand before the command. Asking for the version acts
as soon as these are understood, whatever follows. A word in the place of the
command that names none is looked at once more as an option of the program,
so `--` in front does not hide one.
-/
import VersionStamp.CommandLine.Words

namespace VersionStamp.CommandLine

/-- Options of the commands that resolve a version. -/
inductive ResolveOption
  | directory
  | release
  | task
  | baseVersion
  | suffix
  | json
  deriving DecidableEq, Repr

namespace ResolveOption

def takesValue : ResolveOption → Bool
  | .release | .json => false
  | _ => true

def long? (json : Bool) (name : String) : Option ResolveOption :=
  if name = "directory" then some .directory
  else if name = "release" then some .release
  else if name = "task" then some .task
  else if name = "base-version" then some .baseVersion
  else if name = "suffix" then some .suffix
  else if json ∧ name = "json" then some .json
  else none

def letter? (c : Char) : Option ResolveOption :=
  if c = 'C' then some .directory else if c = 't' then some .task else none

/-- The options of a resolving command; `json` says whether it can print JSON. -/
def all (json : Bool) : Options ResolveOption := ⟨long? json, letter?, takesValue⟩

end ResolveOption

/-- The shared options of the resolving commands, as they were given. -/
structure ResolveOptions where
  directory : Option String := none
  release : Bool := false
  tasks : List String := []
  baseVersion : Option String := none
  suffix : Option String := none
  json : Bool := false
  deriving DecidableEq, Repr

namespace ResolveOptions

/-- One more setting: tasks add up, any other value replaces the earlier one. -/
def set (o : ResolveOptions) (setting : Setting ResolveOption) : ResolveOptions :=
  match setting.1 with
  | .directory => { o with directory := some setting.2 }
  | .release => { o with release := true }
  | .task => { o with tasks := o.tasks ++ [setting.2] }
  | .baseVersion => { o with baseVersion := some setting.2 }
  | .suffix => { o with suffix := some setting.2 }
  | .json => { o with json := true }

def ofSettings (settings : List (Setting ResolveOption)) : ResolveOptions :=
  settings.foldl set {}

end ResolveOptions

inductive Command
  | printVersion (options : ResolveOptions)
  | resolve (options : ResolveOptions)
  | stamp (output : String) (options : ResolveOptions)
  | show_ (path : String)
  deriving DecidableEq, Repr

inductive Invocation
  | version
  | command (c : Command)
  deriving DecidableEq, Repr

/-- No argument is wanted. -/
def noArgument : List String → Except UsageError Unit
  | [] => .ok ()
  | word :: _ => .error (.extraArgument word)

/-- Exactly one argument is wanted. -/
def oneArgument (name : String) : List String → Except UsageError String
  | [] => .error (.missingArgument name)
  | [word] => .ok word
  | _ :: word :: _ => .error (.extraArgument word)

/-- The option of the program itself. -/
def versionOption : Options Unit where
  long name := if name = "version" then some () else none
  letter c := if c = 'v' then some () else none
  takesValue _ := false

def noOptions : Options Unit := ⟨fun _ => none, fun _ => none, fun _ => false⟩

/-- The options and arguments of a resolving command. -/
def resolveWords (json : Bool) (words : List String) :
    Except UsageError (ResolveOptions × List String) :=
  match sort (ResolveOption.all json) true words with
  | .error e => .error e
  | .ok (settings, arguments) => .ok (.ofSettings settings, arguments)

/-- The command of a name with the words behind it. -/
def Command.parse (name : String) (words : List String) : Except UsageError Command :=
  if name = "print-version" then do
    let (options, arguments) ← resolveWords false words
    noArgument arguments
    return .printVersion options
  else if name = "resolve" then do
    let (options, arguments) ← resolveWords true words
    noArgument arguments
    return .resolve options
  else if name = "stamp" then do
    let (options, arguments) ← resolveWords false words
    return .stamp (← oneArgument "OUTPUT" arguments) options
  else if name = "show" then do
    let (_, arguments) ← sort noOptions true words
    return .show_ (← oneArgument "PATH" arguments)
  else .error (.unknownCommand name)

def Command.names : List String := ["print-version", "resolve", "stamp", "show"]

/-- What words ask for whose first is in the place of a command and names none. -/
def Invocation.ofStray (name : String) (words : List String) : Except UsageError Invocation :=
  match sort versionOption false (name :: words) with
  | .error e => .error e
  | .ok (_ :: _, _) => .ok .version
  | .ok ([], _) => .error (.unknownCommand name)

/-- What the words of a command line ask for. -/
def Invocation.parse (words : List String) : Except UsageError Invocation :=
  if words = [] then .error .noArguments
  else
    match sort versionOption false words with
    | .error e => .error e
    | .ok (_ :: _, _) => .ok .version
    | .ok ([], []) => .error .missingCommand
    | .ok ([], name :: words) =>
      if Command.names.contains name then (Command.parse name words).map .command
      else ofStray name words

end VersionStamp.CommandLine
