/-
How a process of git ends, and the answer that each ending amounts to.

Both streams have to be UTF-8, whatever the exit code. The answer is the
trimmed standard output of a process that ended well and wrote anything but
blanks; every other ending is an absence with its cause.
-/
import VersionStamp.Git.Answer
import VersionStamp.Git.Query
import VersionStamp.Ledger
import VersionStamp.Text.Blank
import VersionStamp.Text.Lines
import VersionStamp.Text.Utf8

namespace VersionStamp.Git

/-- How running git ends. -/
inductive Ending
  | exited (code : Int) (output errors : ByteArray)
  | noExecutable
  | timedOut
  /-- The process could not be carried through, for the reason in the text. -/
  | failed (text : String)
  /-- The operating system would not start the process. -/
  | refused (text : String)
  /-- A failure of a kind that no caller expects; it ends the whole operation. -/
  | broken (text : String)

/-- The characters of a stream, with every end of line written the same way. -/
def streamText (octets : ByteArray) : Option (List Char) :=
  match Text.Utf8.decode octets with
  | .ok s => some (Text.Chars.unifyBreaks s.toList)
  | .error _ => none

/-- The first line of the characters, blanks around them left out. -/
def firstLine (cs : List Char) : Option String :=
  (Text.Chars.lines (Text.Chars.trim cs)).head?.map String.ofList

/-- The answer of a process that ended with an exit code and two decoded streams. -/
def exitAnswer (code : Int) (output errors : List Char) : Answer :=
  if code ≠ 0 then .absent (.exitCode code (firstLine errors))
  else
    match Text.Chars.trim output with
    | [] => .absent .emptyOutput
    | cs => .found (String.ofList cs)

/-- The answer that an ending amounts to; the error is the text of an unexpected failure. -/
def Ending.answer (limit : Binary64) : Ending → Except String Answer
  | .exited code output errors =>
    match streamText output, streamText errors with
    | some o, some e => .ok (exitAnswer code o e)
    | _, _ => .ok (.absent .undecodable)
  | .noExecutable => .ok (.absent .noExecutable)
  | .timedOut => .ok (.absent (.timedOut limit))
  | .failed t => .ok (.absent (.failed t))
  | .refused t => .ok (.absent (.refused t))
  | .broken t => .error t

end Git

/-- How git behaves: the ending of its process by subcommand, and the answers that a stand-in
was told. A subcommand that is not listed meets no executable. -/
structure Git where
  endings : Ledger String Git.Ending := []
  told : Ledger String Git.Answer := []

namespace Git

/-- The answer to a query; the error is the text of an unexpected failure. -/
def answer (g : Git) (q : Query) : Except String Answer :=
  match q.runner with
  | .process => ((g.endings.get? q.subcommand).getD .noExecutable).answer q.timeout
  | .standIn => .ok ((g.told.get? q.subcommand).getD (.absent .noExecutable))

end VersionStamp.Git
