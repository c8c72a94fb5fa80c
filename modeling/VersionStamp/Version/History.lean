/-
Many uses of one resolver, with git changing its behaviour in between.

`performAll` reports on the steps, `worldAfter` is the world in which whatever
comes next happens: a change of git outlasts the steps, and also a fault that
ends them. `files_worldAfter` says that the two agree on the files.
-/
import VersionStamp.Version.Resolver

namespace VersionStamp.Resolver

/-- One use of a resolver, or a change in the world around it. -/
inductive Step
  | describeTag
  | currentBranch
  | compute (release : Bool)
  | resolve (release : Bool) (stream : Stream)
  | git (behaviour : Git)

/-- What a step comes to. -/
inductive StepResult
  | answer (a : Git.Answer)
  | info (i : VersionInfo)
  | changed
  deriving DecidableEq, Repr

/-- The world in which a step and those after it happen. -/
def Step.prepare (s : Step) (w : World) : World :=
  match s with
  | .git behaviour => { w with git := behaviour }
  | _ => w

/-- One step of a resolver. -/
def perform (r : Resolver) : Step → Action StepResult
  | .describeTag => do return .answer (← r.describeTag)
  | .currentBranch => do return .answer (← r.currentBranch)
  | .compute release => do return .info (← r.compute release)
  | .resolve release stream => do return .info (← r.resolve release stream)
  | .git _ => pure .changed

/-- The steps one after the other; the first fault ends them. -/
def performAll (r : Resolver) : List Step → Action (List StepResult)
  | [] => pure []
  | s :: steps => fun w =>
    (do
      let result ← r.perform s
      let results ← performAll r steps
      return result :: results : Action (List StepResult)) (s.prepare w)

/-- The world after the steps; those behind a fault are not reached. -/
def worldAfter (r : Resolver) : List Step → World → World
  | [], w => w
  | s :: steps, w =>
    let report := (r.perform s).run (s.prepare w)
    match report.result with
    | .ok _ => worldAfter r steps ((s.prepare w).after report)
    | .error _ => (s.prepare w).after report

theorem files_worldAfter (r : Resolver) (steps : List Step) (w : World) :
    (r.worldAfter steps w).files = ((r.performAll steps).run w).files := by
  induction steps generalizing w with
  | nil => rfl
  | cons s steps ih =>
    have hrun : (r.performAll (s :: steps)).run w =
        (r.perform s >>= fun result => r.performAll steps >>= fun results =>
          pure (result :: results)).run (s.prepare w) := rfl
    rw [hrun]
    cases h : ((r.perform s).run (s.prepare w)).result with
    | error e =>
      rw [Action.run_bind_error h]
      simp [worldAfter, h, World.after, Report.withFault]
    | ok result =>
      rw [Action.run_bind_ok h]
      have hw : r.worldAfter (s :: steps) w =
          r.worldAfter steps ((s.prepare w).after ((r.perform s).run (s.prepare w))) := by
        simp [worldAfter, h]
      rw [hw, ih]
      simp only [Report.andThen]
      generalize (s.prepare w).after ((r.perform s).run (s.prepare w)) = v
      cases hv : ((r.performAll steps).run v).result with
      | error e => rw [Action.run_bind_error hv]; rfl
      | ok results => rw [Action.run_bind_ok hv]; simp [Report.andThen, World.after]

end VersionStamp.Resolver
