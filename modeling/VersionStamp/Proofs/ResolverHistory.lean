/-
A resolver remembers nothing.

`history_is_forgotten`: over any steps that succeed, with git changing its
behaviour in between, each step asks what it always asks, and comes to what it
comes to on its own in the world of the beginning, under the behaviour of git
then in force. The files do change in between, as resolving aloud logs; but they
decide about a result only over a NUL in the path of the log, and a log that was
written once has none in its way (`files_or_logs`).
-/
import VersionStamp.Proofs.Logging
import VersionStamp.Proofs.ResolvingRuns
import VersionStamp.Proofs.ShownText
import VersionStamp.Version.History

namespace VersionStamp.Resolver

open VersionStamp.Action

/-- The arguments of what a step asks git, in order. -/
def Step.asks : Step → List (List String)
  | .describeTag => [Git.describeArguments]
  | .currentBranch => [Git.branchArguments]
  | .compute release | .resolve release _ =>
    if release then [Git.branchArguments] else [Git.branchArguments, Git.describeArguments]
  | .git _ => []

/-- How git behaves after a step. -/
def Step.replace (g : Git) : Step → Git
  | .git behaviour => behaviour
  | _ => g

/-- How git behaves after the steps. -/
def Step.inForce (g : Git) (steps : List Step) : Git := steps.foldl Step.replace g

/-- Whatever is logged in this world, no NUL in a path is in the way. -/
def Logs (r : Resolver) (w : World) : Prop := ∀ message, (Log.record r.logDirectory message w).2 ≠ .error .embeddedNul

/-! ## One step -/

section

variable {r : Resolver} {s : Step} {w : World} {result : StepResult}

theorem Step.prepare_eq (s : Step) (w : World) : s.prepare w = { w with git := Step.replace w.git s } := by
  cases s <;> rfl

/-- A change of git makes no difference to the step that is the change. -/
theorem result_perform_prepare (r : Resolver) (s : Step) (w : World) :
    ((r.perform s).run (s.prepare w)).result = ((r.perform s).run w).result := by
  cases s <;> rfl

theorem queries_compute {release : Bool} {info : VersionInfo} (h : ((r.compute release).run w).result = .ok info) :
    ((r.compute release).run w).queries = if release then [r.branchQuery] else [r.branchQuery, r.describeQuery] := by
  obtain ⟨branch, hb, hcase⟩ := compute_eq_ok h
  rw [compute_run, hb]
  obtain ⟨rfl, -⟩ | ⟨rfl, described, hd, -⟩ := hcase
  · rfl
  · simp only [hd]
    rfl

/-- A step that succeeds asks what it always asks. -/
theorem queries_perform (h : ((r.perform s).run w).result = .ok result) :
    ((r.perform s).run w).queries = s.asks.map r.query := by
  cases s with
  | describeTag =>
    rw [perform, run_bind_pure, describeTag_run]
    rfl
  | currentBranch =>
    rw [perform, run_bind_pure, currentBranch, run_ask]
    rfl
  | compute release =>
    obtain ⟨info, hinfo, -⟩ := result_bind_eq_ok.1 h
    rw [perform, run_bind_pure, queries_compute hinfo]
    cases release <;> rfl
  | resolve release stream =>
    obtain ⟨info, hinfo, -⟩ := result_bind_eq_ok.1 h
    rw [perform, run_bind_pure, (resolve_leaves hinfo).2, queries_compute (compute_of_resolve hinfo)]
    cases release <;> rfl
  | git behaviour => rfl

/-- Resolving without a word reads no files. -/
theorem result_compute_withFiles (r : Resolver) (release : Bool) (w : World) (t : FileTree) :
    ((r.compute release).run { w with files := t }).result = ((r.compute release).run w).result := by
  rw [compute_run, compute_run]
  cases w.git.answer r.branchQuery with
  | error said => rfl
  | ok branch =>
    cases release with
    | true => rfl
    | false => cases w.git.answer r.describeQuery <;> rfl

/-- A step that succeeds comes to the same on the files of the beginning, if these are the files that there are, or
if logging on them succeeds. -/
theorem result_perform {t : FileTree} (ht : t = w.files ∨ r.Logs w)
    (h : ((r.perform s).run { w with files := t }).result = .ok result) :
    ((r.perform s).run w).result = .ok result := by
  cases s with
  | describeTag =>
    rw [perform, run_bind_pure, describeTag_run] at h ⊢
    exact h
  | currentBranch =>
    rw [perform, run_bind_pure, currentBranch, run_ask] at h ⊢
    exact h
  | compute release =>
    obtain ⟨info, hinfo, hresult⟩ := result_bind_eq_ok.1 h
    rw [result_compute_withFiles] at hinfo
    exact result_bind_eq_ok.2 ⟨info, hinfo, hresult⟩
  | resolve release stream =>
    obtain ⟨info, hinfo, hresult⟩ := result_bind_eq_ok.1 h
    obtain ⟨hcompute, hshown, hlog⟩ := result_resolve_eq_ok_iff.1 hinfo
    rw [result_compute_withFiles] at hcompute
    have hlogs : (Log.record r.logDirectory info.summary w).2 ≠ .error .embeddedNul := by
      obtain rfl | hlogs := ht
      · exact hlog
      · exact hlogs info.summary
    exact result_bind_eq_ok.2 ⟨info, result_resolve_eq_ok_iff.2 ⟨hcompute, hshown, hlogs⟩, hresult⟩
  | git behaviour => exact h

/-- After a step that succeeds the files are still those of the beginning, or logging on those succeeds. -/
theorem files_or_logs {t : FileTree} (ht : t = w.files ∨ r.Logs w)
    (h : ((r.perform s).run { w with files := t }).result = .ok result) :
    ((r.perform s).run { w with files := t }).files = w.files ∨ r.Logs w := by
  obtain rfl | hlogs := ht
  · cases s with
    | describeTag =>
      rw [perform, run_bind_pure, describeTag_run]
      exact .inl rfl
    | currentBranch =>
      rw [perform, run_bind_pure, currentBranch, run_ask]
      exact .inl rfl
    | compute release =>
      rw [perform, run_bind_pure]
      exact .inl (r.compute_silent release _).1
    | resolve release stream =>
      obtain ⟨info, hinfo, -⟩ := result_bind_eq_ok.1 h
      obtain ⟨-, -, hlog⟩ := result_resolve_eq_ok_iff.1 hinfo
      refine .inr fun message => ?_
      rw [Log.result_record_eq _ message info.summary]
      exact hlog
    | git behaviour => exact .inl rfl
  · exact .inr hlogs

end

/-! ## All steps -/

section

variable {r : Resolver} {s : Step} {steps : List Step} {w : World} {results : List StepResult}

theorem performAll_cons_run (r : Resolver) (s : Step) (steps : List Step) (w : World) :
    (r.performAll (s :: steps)).run w =
      (r.perform s >>= fun result => r.performAll steps >>= fun results => pure (result :: results)).run (s.prepare w) :=
  rfl

/-- Steps succeed if each does in its turn. -/
theorem performAll_cons_eq_ok_iff :
    ((r.performAll (s :: steps)).run w).result = .ok results ↔
      ∃ result rest, ((r.perform s).run (s.prepare w)).result = .ok result ∧
        ((r.performAll steps).run ((s.prepare w).after ((r.perform s).run (s.prepare w)))).result = .ok rest ∧
        results = result :: rest := by
  rw [performAll_cons_run, result_bind_eq_ok]
  constructor
  · intro h
    obtain ⟨result, hresult, hrest⟩ := h
    obtain ⟨rest, hrest, hpure⟩ := result_bind_eq_ok.1 hrest
    exact ⟨result, rest, hresult, hrest, (Except.ok.inj hpure).symm⟩
  · intro h
    obtain ⟨result, rest, hresult, hrest, rfl⟩ := h
    exact ⟨result, hresult, result_bind_eq_ok.2 ⟨rest, hrest, rfl⟩⟩

theorem queries_performAll (h : ((r.performAll steps).run w).result = .ok results) :
    ((r.performAll steps).run w).queries = (steps.flatMap Step.asks).map r.query := by
  induction steps generalizing w results with
  | nil => rfl
  | cons s steps ih =>
    obtain ⟨result, rest, hresult, hrest, -⟩ := performAll_cons_eq_ok_iff.1 h
    rw [performAll_cons_run, run_bind_ok hresult, run_bind_pure, Report.andThen, queries_perform hresult, ih hrest,
      List.flatMap_cons, List.map_append]

/-- The induction is on the steps; from one to the next the files are those of the beginning, or logging on
those succeeds. -/
theorem results_performAll {t : FileTree} (ht : t = w.files ∨ r.Logs w)
    (h : ((r.performAll steps).run { w with files := t }).result = .ok results) :
    results.length = steps.length ∧ ∀ i s, steps[i]? = some s → ∃ result, results[i]? = some result ∧
      ((r.perform s).run { w with git := Step.inForce w.git (steps.take i) }).result = .ok result := by
  induction steps generalizing t w results with
  | nil =>
    obtain rfl := Except.ok.inj h
    exact ⟨rfl, nofun⟩
  | cons s steps ih =>
    obtain ⟨result, rest, hresult, hrest, rfl⟩ := performAll_cons_eq_ok_iff.1 h
    have hprepare : s.prepare { w with files := t } = { s.prepare w with files := t } := by cases s <;> rfl
    have ht' : t = (s.prepare w).files ∨ r.Logs (s.prepare w) := by
      rw [Step.prepare_eq]
      exact ht
    rw [hprepare] at hresult hrest
    obtain ⟨hlength, hall⟩ := ih (files_or_logs ht' hresult) hrest
    refine ⟨congrArg Nat.succ hlength, fun i s' hs' => ?_⟩
    cases i with
    | zero =>
      obtain rfl := Option.some.inj hs'
      exact ⟨result, rfl, (result_perform_prepare r s w).symm.trans (result_perform ht' hresult)⟩
    | succ i =>
      obtain ⟨result', hresult', halone⟩ := hall i s' hs'
      rw [Step.prepare_eq] at halone
      exact ⟨result', hresult', halone⟩

/-- **A resolver remembers nothing**, whatever it is a resolver of, and whatever the world. If any steps succeed, one
after the other, then git was asked what each of the steps asks, in order, about the directory of the resolver and
with its timeout, and nothing else; and each step came to what it comes to in the world of the beginning, under
the behaviour of git that was in force. -/
theorem history_is_forgotten (h : ((r.performAll steps).run w).result = .ok results) :
    ((r.performAll steps).run w).queries =
        (steps.flatMap Step.asks).map (fun arguments => ⟨r.runner, r.directory, arguments, r.timeout⟩) ∧
      results.length = steps.length ∧
      ∀ i s, steps[i]? = some s → ∃ result, results[i]? = some result ∧
        ((r.perform s).run { w with git := Step.inForce w.git (steps.take i) }).result = .ok result := by
  refine ⟨queries_performAll h, ?_⟩
  exact results_performAll (w := w) (.inl rfl) h

end

/-! ## A branch that is left -/

/-- A stand-in of git that was told a branch and a description. -/
def told (branch described : String) : Git where
  told := [("rev-parse", .found branch), ("describe", .found described)]

/-- A resolver that asks a stand-in, and logs. -/
def logging : Resolver where
  directory := "/repo"
  runner := .standIn
  logDirectory := "logs"

/-- A checkout with a branch `next`. -/
def onNext : World where
  git := told "next" "v1-5-gbeef"
  now := .utc 0
  installation := "/"

/-- The version is resolved aloud and logged, and after another branch is checked out, a release. -/
def leaveNext : List Step := [.resolve false .output, .git (told "main" "v2"), .currentBranch, .compute true]

theorem performAll_leaveNext :
    ((logging.performAll leaveNext).run onNext).result =
      .ok [.info ⟨"3.0.0", "SNAPSHOT", .snapshot, "v1-5-beef", "v1-5-beef-SNAPSHOT", some "next"⟩, .changed,
        .answer (.found "main"), .info ⟨"3.0.0", "SNAPSHOT", .release, "", "3.0.0-SNAPSHOT", some "main"⟩] := by
  have henv : onNext.env.NulFree := by
    intro name value h
    cases h
  have hcompute : ((logging.compute false).run onNext).result =
      .ok ⟨"3.0.0", "SNAPSHOT", .snapshot, "v1-5-beef", "v1-5-beef-SNAPSHOT", some "next"⟩ := rfl
  obtain ⟨shown, hshown⟩ := Console.layout_eq_ok_iff.2 (Console.shown_of_no_bracket
    (show '[' ∉ (VersionInfo.summary
      ⟨"3.0.0", "SNAPSHOT", .snapshot, "v1-5-beef", "v1-5-beef-SNAPSHOT", some "next"⟩).toList by decide))
  have hresolve : ((logging.resolve false .output).run onNext).result =
      .ok ⟨"3.0.0", "SNAPSHOT", .snapshot, "v1-5-beef", "v1-5-beef-SNAPSHOT", some "next"⟩ := by
    rw [result_resolve (show Text.NulFree "logs" by decide) henv hcompute, hshown]
  exact performAll_cons_eq_ok_iff.2 ⟨_, _, result_bind_eq_ok.2 ⟨_, hresolve, rfl⟩, rfl, rfl⟩

/-- Nothing is left of the branch once it was left, and what was resolved on it is what is resolved on it. -/
theorem left_branch_is_forgotten :
    ((logging.performAll leaveNext).run onNext).result =
      .ok [.info ⟨"3.0.0", "SNAPSHOT", .snapshot, "v1-5-beef", "v1-5-beef-SNAPSHOT", some "next"⟩, .changed,
        .answer (.found "main"), .info ⟨"3.0.0", "SNAPSHOT", .release, "", "3.0.0-SNAPSHOT", some "main"⟩] ∧
    ((logging.performAll leaveNext).run onNext).queries.map (·.arguments.head?) =
      [some "rev-parse", some "describe", some "rev-parse", some "rev-parse"] ∧
    ((logging.perform (.compute true)).run { onNext with git := told "main" "v2" }).result =
      .ok (.info ⟨"3.0.0", "SNAPSHOT", .release, "", "3.0.0-SNAPSHOT", some "main"⟩) := by
  obtain ⟨hqueries, -, hall⟩ := history_is_forgotten performAll_leaveNext
  refine ⟨performAll_leaveNext, ?_, ?_⟩
  · rw [hqueries]
    rfl
  · obtain ⟨result, hresult, halone⟩ := hall 3 (.compute true) rfl
    obtain rfl := Option.some.inj hresult
    exact halone

end VersionStamp.Resolver
