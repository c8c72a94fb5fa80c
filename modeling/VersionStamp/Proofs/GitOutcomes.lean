/-
How a subcommand of git turns out.

However git behaves, a query sees no more of it than the outcome of its own
subcommand (`answer_eq`). So two behaviours that agree on an outcome answer the
same (`answer_describeQuery_eq`, `answer_branchQuery_eq`), and an outcome that is
foreseen always amounts to an answer.
-/
import VersionStamp.Proofs.Resolution

namespace VersionStamp

namespace Git

/-- How a subcommand turns out: as a process of git ends, and as a stand-in was told. -/
structure Outcome where
  ending : Ending
  told : Answer

/-- A subcommand that is not listed meets no executable. -/
def outcome (g : Git) (subcommand : String) : Outcome where
  ending := (g.endings.get? subcommand).getD .noExecutable
  told := (g.told.get? subcommand).getD (.absent .noExecutable)

namespace Outcome

/-- What the outcome amounts to for whoever asks. -/
def answer (o : Outcome) (q : Query) : Except String Answer :=
  match q.runner with
  | .process => o.ending.answer q.timeout
  | .standIn => .ok o.told

/-- The process does not break off in a way that nobody expects. -/
def Foreseen (o : Outcome) : Prop := ∀ text, o.ending ≠ .broken text

theorem Foreseen.answer_ok {o : Outcome} (h : o.Foreseen) (q : Query) : ∃ a, o.answer q = .ok a := by
  rw [answer]
  cases q.runner with
  | process => exact Ending.answer_ok h q.timeout
  | standIn => exact ⟨o.told, rfl⟩

end Outcome

theorem Foreseen.outcome {g : Git} (h : g.Foreseen) (subcommand : String) : (g.outcome subcommand).Foreseen := by
  intro text
  rw [Git.outcome]
  cases hending : g.endings.get? subcommand with
  | none => nofun
  | some ending =>
    rintro rfl
    exact h subcommand text hending

theorem answer_eq (g : Git) (q : Query) : g.answer q = (g.outcome q.subcommand).answer q := by
  rw [answer, Outcome.answer]
  cases q.runner with
  | process => rfl
  | standIn => rfl

end Git

namespace Resolver

theorem answer_describeQuery_eq {g g' : Git} (h : g.outcome "describe" = g'.outcome "describe") (r : Resolver) :
    g.answer r.describeQuery = g'.answer r.describeQuery := by
  have hsubcommand : r.describeQuery.subcommand = "describe" := rfl
  rw [Git.answer_eq, Git.answer_eq, hsubcommand, h]

theorem answer_branchQuery_eq {g g' : Git} (h : g.outcome "rev-parse" = g'.outcome "rev-parse") (r : Resolver) :
    g.answer r.branchQuery = g'.answer r.branchQuery := by
  have hsubcommand : r.branchQuery.subcommand = "rev-parse" := rfl
  rw [Git.answer_eq, Git.answer_eq, hsubcommand, h]

/-- Where both queries turn out as foreseen, there is a version. -/
theorem compute_of_foreseen {w : World} (hbranch : (w.git.outcome "rev-parse").Foreseen)
    (hdescribe : (w.git.outcome "describe").Foreseen) (r : Resolver) (release : Bool) :
    ∃ info, ((r.compute release).run w).result = .ok info := by
  obtain ⟨branch, hb⟩ := hbranch.answer_ok r.branchQuery
  obtain ⟨described, hd⟩ := hdescribe.answer_ok r.describeQuery
  exact compute_of_answers ((Git.answer_eq _ _).trans hb) ((Git.answer_eq _ _).trans hd) release

end Resolver
end VersionStamp
