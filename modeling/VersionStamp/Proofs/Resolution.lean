/-
What resolving a version comes to.

`compute_run` is all that `compute` does, for every behaviour of git: nothing is
printed and no file is touched. `compute_tidy`: with settings of an environment
and git's own answers, the texts that a build embeds have no blanks at their
ends.
-/
import VersionStamp.Proofs.ActionRuns
import VersionStamp.Proofs.GitAnswers
import VersionStamp.Proofs.UsableSettings
import VersionStamp.Version.Resolver

namespace VersionStamp

/-- No process of git breaks off in a way that nobody expects. -/
def Git.Foreseen (g : Git) : Prop := ∀ subcommand text, g.endings.get? subcommand ≠ some (.broken text)

theorem Git.Foreseen.answer_ok {g : Git} (h : g.Foreseen) (q : Git.Query) : ∃ a, g.answer q = .ok a := by
  rw [Git.answer]
  split
  · refine Ending.answer_ok (fun text he => ?_) _
    cases hq : g.endings.get? q.subcommand with
    | none => rw [hq] at he; cases he
    | some e => rw [hq] at he; exact h q.subcommand text (hq.trans (congrArg some he))
  · exact ⟨_, rfl⟩

theorem Git.answer_trimmed {g : Git} {q : Git.Query} {text : String} (hq : q.runner = .process)
    (h : g.answer q = .ok (.found text)) : Text.trim text = text ∧ text ≠ "" := by
  rw [Git.answer, hq] at h
  exact (Git.answer_eq_found_iff.1 h).trimmed

/-- How the process ends that describes a checkout. -/
def Git.describeEnding (g : Git) : Git.Ending := (g.endings.get? "describe").getD .noExecutable

theorem joinSuffix_trimmed {version suffix : String} (hv : Text.trim version = version) (hne : version ≠ "")
    (hs : Text.trim suffix = suffix) : Text.trim (joinSuffix version suffix) = joinSuffix version suffix := by
  rw [joinSuffix]
  split
  · exact hv
  next hsuffix =>
    rw [Text.trim_eq_self_iff] at hv hs ⊢
    have := hv.surround hs (by simpa using hne) (by simpa using hsuffix) ['-']
    simpa using this

namespace Resolver

theorem answer_describeQuery {r : Resolver} (h : r.runner = .process) (g : Git) :
    g.answer r.describeQuery = g.describeEnding.answer r.timeout := by
  rw [Git.answer, describeQuery, query, h]
  rfl

theorem describeTag_run (r : Resolver) (w : World) :
    r.describeTag.run w =
      ⟨((w.git.answer r.describeQuery).mapError .git).map (·.map Git.compact), w.files, "", "", [r.describeQuery]⟩ := by
  rw [describeTag, Action.run_bind_pure, Action.run_ask]

theorem describeTag_run_ok {r : Resolver} {w : World} {a : Git.Answer} (h : w.git.answer r.describeQuery = .ok a) :
    r.describeTag.run w = ⟨.ok (a.map Git.compact), w.files, "", "", [r.describeQuery]⟩ := by
  rw [describeTag_run, h]
  rfl

theorem describeTag_run_error {r : Resolver} {w : World} {t : String} (h : w.git.answer r.describeQuery = .error t) :
    r.describeTag.run w = ⟨.error (.git t), w.files, "", "", [r.describeQuery]⟩ := by
  rw [describeTag_run, h]
  rfl

/-- Resolving without a word: the branch is asked for, and for a snapshot the described tag. -/
theorem compute_run (r : Resolver) (release : Bool) (w : World) :
    (r.compute release).run w =
      match w.git.answer r.branchQuery with
      | .error t => ⟨.error (.git t), w.files, "", "", [r.branchQuery]⟩
      | .ok branch =>
        if release then ⟨.ok (r.releaseInfo branch.value?), w.files, "", "", [r.branchQuery]⟩
        else
          match w.git.answer r.describeQuery with
          | .error t => ⟨.error (.git t), w.files, "", "", [r.branchQuery, r.describeQuery]⟩
          | .ok described =>
            ⟨.ok (r.snapshotInfo branch.value? (described.map Git.compact)), w.files, "", "",
              [r.branchQuery, r.describeQuery]⟩ := by
  cases hb : w.git.answer r.branchQuery with
  | error t =>
    have hask := Action.run_ask_error hb
    rw [compute, currentBranch, Action.run_bind_error (by rw [hask]), hask]
    rfl
  | ok branch =>
    have hask := Action.run_ask_ok hb
    rw [compute, currentBranch, Action.run_bind_ok (by rw [hask]), hask, World.after_self _ _ rfl]
    cases release with
    | true => simp [Report.andThen]
    | false =>
      simp only [Bool.false_eq_true, if_false]
      cases hd : w.git.answer r.describeQuery with
      | error t =>
        have hrun := describeTag_run_error hd
        rw [Action.run_bind_error (by rw [hrun]), hrun]
        simp [Report.andThen, Report.withFault]
      | ok described =>
        have hrun := describeTag_run_ok hd
        rw [Action.run_bind_ok (by rw [hrun]), hrun, World.after_self _ _ rfl]
        simp [Report.andThen]

/-- Nothing is printed, and no file changes. -/
theorem compute_silent (r : Resolver) (release : Bool) (w : World) :
    ((r.compute release).run w).files = w.files ∧ ((r.compute release).run w).output = "" ∧
      ((r.compute release).run w).errors = "" := by
  rw [compute_run]
  split
  · exact ⟨rfl, rfl, rfl⟩
  · split
    · exact ⟨rfl, rfl, rfl⟩
    · split <;> exact ⟨rfl, rfl, rfl⟩

/-- Where both queries have an answer, there is a version. -/
theorem compute_of_answers {r : Resolver} {w : World} {branch described : Git.Answer}
    (hb : w.git.answer r.branchQuery = .ok branch) (hd : w.git.answer r.describeQuery = .ok described)
    (release : Bool) : ∃ info, ((r.compute release).run w).result = .ok info := by
  simp only [compute_run, hb, hd]
  split <;> exact ⟨_, rfl⟩

theorem compute_foreseen {w : World} (h : w.git.Foreseen) (r : Resolver) (release : Bool) :
    ∃ info, ((r.compute release).run w).result = .ok info := by
  obtain ⟨_, hb⟩ := h.answer_ok r.branchQuery
  obtain ⟨_, hd⟩ := h.answer_ok r.describeQuery
  exact compute_of_answers hb hd release

theorem compute_eq_ok {r : Resolver} {release : Bool} {w : World} {info : VersionInfo}
    (h : ((r.compute release).run w).result = .ok info) :
    ∃ branch, w.git.answer r.branchQuery = .ok branch ∧
      (release = true ∧ info = r.releaseInfo branch.value? ∨
        release = false ∧ ∃ described, w.git.answer r.describeQuery = .ok described ∧
          info = r.snapshotInfo branch.value? (described.map Git.compact)) := by
  rw [compute_run] at h
  split at h
  · cases h
  next branch hb =>
  refine ⟨branch, hb, ?_⟩
  split at h
  next hr => cases h; exact .inl ⟨hr, rfl⟩
  next hr =>
  split at h
  · cases h
  next described hd => cases h; exact .inr ⟨by simpa using hr, described, hd, rfl⟩

/-- What a process of git describes has no blanks at its ends in its compact form either, and is some text; and so has
what stands in for it where nothing is described. -/
theorem described_trimmed {r : Resolver} {w : World} {described : Git.Answer} (hr : r.runner = .process)
    (hd : w.git.answer r.describeQuery = .ok described) {other : String} (hother : Text.trim other = other)
    (hne : other ≠ "") :
    Text.trim ((described.map Git.compact).value?.getD other) = (described.map Git.compact).value?.getD other ∧
      (described.map Git.compact).value?.getD other ≠ "" := by
  cases described with
  | found text =>
    obtain ⟨htext, htext_ne⟩ := Git.answer_trimmed hr hd
    exact Git.compact_trimmed htext htext_ne
  | absent cause => exact ⟨hother, hne⟩

/-- With usable settings and git's own answers, what is embedded has no blanks at its ends. -/
theorem compute_tidy {s : Settings} (hs : s.Tidy) {directory : String} {release : Bool} {w : World}
    {info : VersionInfo} (h : (((ofSettings directory s).compute release).run w).result = .ok info) :
    Text.trim info.displayVersion = info.displayVersion ∧ Text.trim info.revision = info.revision := by
  obtain ⟨branch, -, hcase⟩ := compute_eq_ok h
  rcases hcase with ⟨-, rfl⟩ | ⟨-, described, hd, rfl⟩
  · exact ⟨joinSuffix_trimmed hs.baseVersion hs.baseVersion_ne hs.suffix, show Text.trim "" = "" by decide⟩
  · obtain ⟨hversion, hversion_ne⟩ := described_trimmed rfl hd hs.baseVersion hs.baseVersion_ne
    obtain ⟨hrevision, -⟩ := described_trimmed rfl hd (show Text.trim "dirty" = "dirty" by decide) (by decide)
    exact ⟨joinSuffix_trimmed hversion hversion_ne hs.suffix, hrevision⟩

end Resolver

/-! ## A described checkout -/

namespace World

/-- A world without files, where git knows nothing about the checkout but the given description. -/
def describedAs (text : String) : World where
  git := { endings := [("describe", .exited 0 (text ++ "\n").toUTF8 .empty)] }
  now := .utc 0
  installation := "/"

theorem foreseen_describedAs (text : String) : (describedAs text).git.Foreseen := by
  intro subcommand said h
  simp only [describedAs, Ledger.get?] at h
  split at h <;> simp at h

theorem describe_describedAs {text : String} (h : Text.trim (Text.unifyBreaks (text ++ "\n")) = text)
    (hne : text ≠ "") :
    (describedAs text).git.describeEnding.Wrote text :=
  ⟨_, _, text ++ "\n", "", rfl, Text.Utf8.decode_toByteArray _, rfl, h.symm, hne⟩

theorem answer_describedAs {text : String} (h : Text.trim (Text.unifyBreaks (text ++ "\n")) = text)
    (hne : text ≠ "") {r : Resolver} (hr : r.runner = .process) :
    (describedAs text).git.answer r.describeQuery = .ok (.found text) := by
  rw [Resolver.answer_describeQuery hr]
  exact Git.answer_eq_found_iff.2 (describe_describedAs h hne)

theorem compute_describedAs {text : String} (h : Text.trim (Text.unifyBreaks (text ++ "\n")) = text)
    (hne : text ≠ "") {r : Resolver} (hr : r.runner = .process) (release : Bool) :
    ((r.compute release).run (describedAs text)).result =
      .ok (if release then r.releaseInfo none else r.snapshotInfo none (.found (Git.compact text))) := by
  have hbranch : (describedAs text).git.answer r.branchQuery = .ok (.absent .noExecutable) := by
    simp only [Git.answer, Resolver.branchQuery, Resolver.query, hr]
    rfl
  rw [Resolver.compute_run, hbranch, answer_describedAs h hne hr]
  cases release <;> rfl

end World
end VersionStamp
