/-
Words of a command line, sorted into option settings and arguments.

`--name` takes its value from behind an equals sign or from the next word,
whatever that looks like; `-x` from the rest of the word or from the next
one, and letters without a value can be run together. `--` ends the options.
A lone `-` is an argument. Words are taken from left to right, and the first
that is wrong is the error.
-/
namespace VersionStamp.CommandLine

/-- What is wrong with a command line. -/
inductive UsageError
  | noArguments
  | noSuchOption (name : String)
  /-- An option without its value, or a value for an option that takes none. -/
  | badOptionUse (name : String)
  | missingArgument (name : String)
  | missingCommand
  | unknownCommand (name : String)
  | extraArgument (word : String)
  deriving DecidableEq, Repr

def UsageError.message : UsageError → String
  | .noArguments => "a command is needed"
  | .noSuchOption n => "no such option: " ++ n
  | .badOptionUse n => "option " ++ n ++ " lacks its value or takes none"
  | .missingArgument n => "missing argument: " ++ n
  | .missingCommand => "missing command"
  | .unknownCommand n => "no such command: " ++ n
  | .extraArgument w => "unexpected extra argument: " ++ w

/-- A word by its shape. -/
inductive Shape
  | argument
  | endOfOptions
  | long (name : String) (value : Option String)
  | letters (letters : List Char)
  deriving DecidableEq, Repr

/-- What stands before the first equals sign, and what stands behind it if there is one. -/
def cutValue (cs : List Char) : String × Option String :=
  match cs.dropWhile (· ≠ '=') with
  | [] => (String.ofList cs, none)
  | _ :: value => (String.ofList (cs.takeWhile (· ≠ '=')), some (String.ofList value))

def shape (word : String) : Shape :=
  match word.toList with
  | ['-', '-'] => .endOfOptions
  | '-' :: '-' :: cs => .long (cutValue cs).1 (cutValue cs).2
  | '-' :: c :: cs => .letters (c :: cs)
  | _ => .argument

/-- The options that a command knows. -/
structure Options (ω : Type) where
  long : String → Option ω
  letter : Char → Option ω
  takesValue : ω → Bool

variable {ω : Type}

/-- An option that was given, with its value; a flag has the empty one. -/
abbrev Setting (ω : Type) := ω × String

/-- The settings of letters run together, and the option that still waits for its value: it
takes the rest of the letters if there are any, and else the next word. -/
def cluster (o : Options ω) : List Char → Except UsageError (List (Setting ω) × Option ω)
  | [] => .ok ([], none)
  | c :: cs =>
    match o.letter c with
    | none => .error (.noSuchOption (String.ofList ['-', c]))
    | some opt =>
      if o.takesValue opt then
        if cs = [] then .ok ([], some opt) else .ok ([(opt, String.ofList cs)], none)
      else
        match cluster o cs with
        | .error e => .error e
        | .ok (settings, waiting) => .ok ((opt, "") :: settings, waiting)

/-- Settings in front of those of the later words. -/
def withSettings (front : List (Setting ω)) :
    Except UsageError (List (Setting ω) × List String) →
      Except UsageError (List (Setting ω) × List String)
  | .error e => .error e
  | .ok (settings, arguments) => .ok (front ++ settings, arguments)

/-- An argument in front of those of the later words. -/
def withArgument (word : String) :
    Except UsageError (List (Setting ω) × List String) →
      Except UsageError (List (Setting ω) × List String)
  | .error e => .error e
  | .ok (settings, arguments) => .ok (settings, word :: arguments)

/-- The settings and the arguments among the words. Where they are not mixed, the first argument
ends the settings. -/
def sort (o : Options ω) (mixed : Bool) :
    List String → Except UsageError (List (Setting ω) × List String)
  | [] => .ok ([], [])
  | word :: words =>
    match shape word with
    | .argument =>
      if mixed then withArgument word (sort o mixed words) else .ok ([], word :: words)
    | .endOfOptions => .ok ([], words)
    | .long name value =>
      match o.long name with
      | none => .error (.noSuchOption word)
      | some opt =>
        if o.takesValue opt then
          match value, words with
          | some v, words => withSettings [(opt, v)] (sort o mixed words)
          | none, v :: words => withSettings [(opt, v)] (sort o mixed words)
          | none, [] => .error (.badOptionUse word)
        else if value.isSome then .error (.badOptionUse word)
        else withSettings [(opt, "")] (sort o mixed words)
    | .letters cs =>
      match cluster o cs with
      | .error e => .error e
      | .ok (settings, none) => withSettings settings (sort o mixed words)
      | .ok (settings, some opt) =>
        match words with
        | v :: words => withSettings (settings ++ [(opt, v)]) (sort o mixed words)
        | [] => .error (.badOptionUse word)

end VersionStamp.CommandLine
