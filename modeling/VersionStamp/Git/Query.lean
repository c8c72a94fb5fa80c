/-
The queries that are put to git.
-/
import VersionStamp.Number.Binary64

namespace VersionStamp.Git

/-- Who answers a query: a process of git, or a stand-in that was told the answers. -/
inductive Runner
  | process
  | standIn
  deriving DecidableEq, Repr

/-- One question about the checkout in `directory`. -/
structure Query where
  runner : Runner
  directory : String
  arguments : List String
  timeout : Binary64
  deriving DecidableEq, Repr

namespace Query

/-- The words of the query as its runner gets them. -/
def words (q : Query) : List String :=
  match q.runner with
  | .process => "git" :: "-C" :: q.directory :: q.arguments
  | .standIn => q.directory :: q.arguments

/-- The subcommand decides who answers and how; a query without arguments has an empty one. -/
def subcommand (q : Query) : String := q.arguments.headD ""

end Query

/-- The nearest tag that starts with `v`, snapshot tags left out. -/
def describeArguments : List String :=
  ["describe", "--tags", "--match", "v*", "--exclude", "*SNAPSHOT*"]

/-- The short name of what is checked out. -/
def branchArguments : List String := ["rev-parse", "--abbrev-ref", "HEAD"]

end VersionStamp.Git
