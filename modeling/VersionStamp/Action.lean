/-
What is done in a world, and what it leaves behind.

An `Action` reads the world and gives a `Report`: a result or the fault that
ended it, the files afterwards, what was printed on either stream, and the
queries put to git. Of the world only the files can change, so the
environment, the working directory and git's behaviour are the same for all
parts of an action.

`run_bind_ok` and `run_bind_error` say what one action after another leaves
behind: the second starts with the files of the first, and what they print
and ask comes one after the other.
-/
import VersionStamp.World

namespace VersionStamp

/-- What an action leaves behind. -/
structure Report (α : Type) where
  result : Except Fault α
  files : FileTree
  output : String
  errors : String
  queries : List Git.Query

namespace Report

variable {α β : Type}

/-- A fault in the place of the result; all else stays. -/
def withFault (r : Report α) (e : Fault) : Report β :=
  ⟨.error e, r.files, r.output, r.errors, r.queries⟩

/-- The report on two actions together, given that on the second one. -/
def andThen (r : Report α) (s : Report β) : Report β :=
  ⟨s.result, s.files, r.output ++ s.output, r.errors ++ s.errors, r.queries ++ s.queries⟩

end Report

/-- The world after what a report tells of. -/
def World.after {α : Type} (w : World) (r : Report α) : World := { w with files := r.files }

/-- Something that is done in a world. -/
def Action (α : Type) : Type := World → Report α

namespace Action

variable {α β : Type}

def run (x : Action α) (w : World) : Report α := x w

protected def pure (a : α) : Action α := fun w => ⟨.ok a, w.files, "", "", []⟩

/-- One action after the other; a fault of the first ends both. -/
protected def bind (x : Action α) (f : α → Action β) : Action β := fun w =>
  match (x w).result with
  | .error e => (x w).withFault e
  | .ok a => (x w).andThen (f a (w.after (x w)))

instance : Monad Action where
  pure := Action.pure
  bind := Action.bind

def fail (e : Fault) : Action α := fun w => ⟨.error e, w.files, "", "", []⟩

/-- The world as it is. -/
def world : Action World := fun w => ⟨.ok w, w.files, "", "", []⟩

/-- Prints the text as it is. -/
def write (stream : Stream) (text : String) : Action Unit := fun w =>
  match stream with
  | .output => ⟨.ok (), w.files, text, "", []⟩
  | .errors => ⟨.ok (), w.files, "", text, []⟩

/-- Puts a query to git. -/
def ask (q : Git.Query) : Action Git.Answer := fun w =>
  match w.git.answer q with
  | .ok a => ⟨.ok a, w.files, "", "", [q]⟩
  | .error t => ⟨.error (.git t), w.files, "", "", [q]⟩

/-- Works on the files; what was changed stays changed when it fails. -/
def onFiles (f : World → FileTree × Except FileError α) : Action (Except FileError α) := fun w =>
  ⟨.ok (f w).2, (f w).1, "", "", []⟩

/-- The result of something that may fail. -/
def ofExcept : Except Fault α → Action α
  | .ok a => Action.pure a
  | .error e => fail e

/-- A failure with the files as the fault of the action. -/
def orFault (x : Action (Except FileError α)) : Action α := do
  match ← x with
  | .ok a => pure a
  | .error e => fail (.file e)

/-- Prints a text and an end of line, as the console lays it out. -/
def print (stream : Stream) (text : String) (style : String := "") : Action Unit :=
  match Console.layout text style with
  | .ok s => write stream (s ++ "\n")
  | .error e => fail (.console e)

/-! ## Reports -/

@[simp] theorem run_pure (a : α) (w : World) :
    (pure a : Action α).run w = ⟨.ok a, w.files, "", "", []⟩ := rfl

@[simp] theorem run_fail (e : Fault) (w : World) :
    (fail e : Action α).run w = ⟨.error e, w.files, "", "", []⟩ := rfl

@[simp] theorem run_world (w : World) : world.run w = ⟨.ok w, w.files, "", "", []⟩ := rfl

@[simp] theorem run_onFiles (f : World → FileTree × Except FileError α) (w : World) :
    (onFiles f).run w = ⟨.ok (f w).2, (f w).1, "", "", []⟩ := rfl

theorem run_bind_ok {x : Action α} {w : World} {a : α} (h : (x.run w).result = .ok a)
    (f : α → Action β) :
    (x >>= f).run w = (x.run w).andThen ((f a).run (w.after (x.run w))) := by
  show Action.bind x f w = _
  simp only [run] at h
  simp only [Action.bind, run, h]

theorem run_bind_error {x : Action α} {w : World} {e : Fault} (h : (x.run w).result = .error e)
    (f : α → Action β) : (x >>= f).run w = (x.run w).withFault e := by
  show Action.bind x f w = _
  simp only [run] at h
  simp only [Action.bind, run, h]

end Action
end VersionStamp
