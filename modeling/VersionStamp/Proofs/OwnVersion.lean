/-
The version of the program itself.

It is up to git alone: in worlds that share git and the checkout that the program
runs from, asking for it comes to the same (`sideBySide_version`), whatever the
files, the environment and the place where one stands. The words behind `--version`
are not looked at (`parse_version`). Git is asked about the branch and then about
the described tag, as for any snapshot; if git breaks off over the branch in a way
that nobody expects, there is no second query (`queries_version`).
-/
import VersionStamp.Proofs.Demands
import VersionStamp.Proofs.GitOutcomes

namespace VersionStamp

open VersionStamp.Action

/-- Git behaves the same, and the program runs from the same checkout. -/
structure World.SameSelf (w v : World) : Prop where
  git : w.git = v.git
  installation : w.installation = v.installation

/-- The queries of a snapshot. The second is not reached where the first breaks off. -/
theorem Resolver.queries_compute_snapshot (r : Resolver) (w : World) :
    ((r.compute false).run w).queries =
      match w.git.answer r.branchQuery with
      | .error _ => [r.branchQuery]
      | .ok _ => [r.branchQuery, r.describeQuery] := by
  rw [compute_run]
  cases w.git.answer r.branchQuery with
  | error text => rfl
  | ok branch => cases w.git.answer r.describeQuery <;> rfl

namespace Own

/-- What is checked out, and then the described tag: queries about the checkout that the program runs from, with
the timeout of settings that nobody changed. -/
def queries (w : World) : List Git.Query :=
  [⟨.process, w.installation, Git.branchArguments, Settings.initial.gitTimeout⟩,
   ⟨.process, w.installation, Git.describeArguments, Settings.initial.gitTimeout⟩]

theorem version_run (w : World) :
    version.run w =
      ⟨(((resolver w.installation).compute false).run w).result.map describe, w.files, "", "",
        (((resolver w.installation).compute false).run w).queries⟩ := by
  obtain ⟨hfiles, houtput, herrors⟩ := (resolver w.installation).compute_silent false w
  rw [version, run_world_bind, run_bind_pure, hfiles, houtput, herrors]

theorem version_describedAs :
    (version.run (World.describedAs "v1-5-gbeef")).result = .ok "1.0.0 (v1-5-beef)" := by
  rw [version_run, World.compute_describedAs (by decide) (by decide) rfl false]
  decide

theorem sideBySide_version : SideBySide World.SameSelf version version := by
  refine sideBySide_world fun w v h => ?_
  rw [h.installation]
  exact (Resolver.sideBySide_compute_sameGit (fun _ _ h => h.git) _ false).bind fun _ => sideBySide_pure _

end Own

namespace CommandLine

/-- Words behind `--version` are not looked at if the first of them is no option of the program. -/
theorem parse_version {rest : List String} (h : ∀ word ∈ rest.head?, word.toList.head? ≠ some '-') :
    Invocation.parse ("--version" :: rest) = .ok .version := by
  have hrest : sort versionOption false rest = .ok ([], rest) := by
    cases rest with
    | nil => rfl
    | cons word rest =>
      rw [sort, shape_eq_argument_iff.2 (.inr (h word rfl))]
      exact if_neg Bool.false_ne_true
  have hshape : shape "--version" = .long "version" none := by decide
  have hlong : versionOption.long "version" = some () := by decide
  have hflag : versionOption.takesValue () = false := rfl
  have hsorted : sort versionOption false ("--version" :: rest) = .ok ([((), "")], rest) := by
    simp [sort, hshape, hlong, hflag, hrest, withSettings]
  rw [Invocation.parse, if_neg (List.cons_ne_nil _ _), hsorted]

theorem reports_version {rest : List String} (h : ∀ word ∈ rest.head?, word.toList.head? ≠ some '-') (w : World) :
    reports ("--version" :: rest) w = .ok (Invocation.version.perform.run w) := by
  rw [reports, run, parse_version h]
  rfl

theorem sideBySide_perform_version :
    SideBySide World.SameSelf Invocation.version.perform Invocation.version.perform :=
  Own.sideBySide_version.bind fun _ => (sideBySide_print _ _ _).bind fun _ => sideBySide_pure _

/-- Printing the version adds nothing to what finding it out does. -/
theorem run_perform_version (w : World) :
    (Invocation.version.perform.run w).files = w.files ∧
      (Invocation.version.perform.run w).queries =
        (((Own.resolver w.installation).compute false).run w).queries := by
  have hprint : ∀ text, OnlyPrints (do print .output text; return ExitStatus.success) :=
    fun text => (onlyPrints_print _ _ _).bind fun _ => onlyPrints_pure _
  obtain ⟨hfiles, hqueries⟩ := run_bind_onlyPrints Own.version hprint w
  rw [Own.version_run] at hfiles hqueries
  exact ⟨hfiles, hqueries⟩

/-- A version that the console can show is printed. -/
theorem perform_version_of_shown {w : World} {version shown : String} (hversion : (Own.version.run w).result = .ok version)
    (hshown : Console.layout version = .ok shown) :
    (Invocation.version.perform.run w).result = .ok .success ∧
      (Invocation.version.perform.run w).output = shown ++ "\n" ∧
      (Invocation.version.perform.run w).errors = "" := by
  have hprint : (do print .output version; return ExitStatus.success : Action ExitStatus).run w =
      ⟨.ok .success, w.files, shown ++ "\n", "", []⟩ := by
    rw [run_bind_pure, run_print, hshown]
    rfl
  have hrun : Invocation.version.perform.run w =
      (Own.version.run w).andThen ⟨.ok .success, w.files, shown ++ "\n", "", []⟩ := by
    have hafter : w.after (Own.version.run w) = w := World.after_self _ _ (by rw [Own.version_run])
    rw [← hprint]
    show (Own.version >>= fun version => do print .output version; return ExitStatus.success).run w = _
    rw [run_bind_ok hversion, hafter]
  rw [hrun, Own.version_run]
  exact ⟨rfl, String.empty_append, rfl⟩

theorem answer_own_branchQuery (w : World) :
    w.git.answer (Own.resolver w.installation).branchQuery =
      (w.git.outcome "rev-parse").ending.answer Settings.initial.gitTimeout := by
  rw [Git.answer_eq]
  rfl

/-- The branch is asked for first, and the described tag unless git has broken off by then. -/
theorem queries_version (w : World) :
    ((w.git.outcome "rev-parse").Foreseen → (Invocation.version.perform.run w).queries = Own.queries w) ∧
      ∀ text, (w.git.outcome "rev-parse").ending = .broken text →
        (Invocation.version.perform.run w).queries = (Own.queries w).take 1 ∧
          (Invocation.version.perform.run w).result = .error (.git text) := by
  rw [(run_perform_version w).2, Resolver.queries_compute_snapshot, answer_own_branchQuery]
  refine ⟨fun hforeseen => ?_, fun text hbroken => ?_⟩
  · obtain ⟨branch, hbranch⟩ := Git.Ending.answer_ok hforeseen Settings.initial.gitTimeout
    rw [hbranch]
    rfl
  · have hbranch : w.git.answer (Own.resolver w.installation).branchQuery = .error text := by
      rw [answer_own_branchQuery, hbroken]
      rfl
    have hversion : (Own.version.run w).result = .error (.git text) := by
      rw [Own.version_run, Resolver.compute_run, hbranch]
      rfl
    rw [hbroken]
    refine ⟨rfl, ?_⟩
    show ((Own.version >>= fun version => do print .output version; return ExitStatus.success).run w).result = _
    rw [run_bind_error hversion]
    rfl

/-- **The program's own version is up to git alone.** Take two worlds that share git and the checkout
that the program runs from, and differ in whatever else: files, working directory, environment, usable settings
or not. `--version` in front of any words of which the first is no option comes to the same in the one world as
`--version` alone in the other: it ends the same and prints the same. It changes no file, and it asks git about
that checkout, with the usual timeout, what is checked out and then how it is described; where git breaks off
over the first query, that is how the run ends. -/
theorem own_version_is_up_to_git {w v : World} (hself : w.SameSelf v) {rest : List String}
    (hrest : ∀ word ∈ rest.head?, word.toList.head? ≠ some '-') :
    ∃ r s, reports ("--version" :: rest) w = .ok r ∧ reports ["--version"] v = .ok s ∧ r.Agrees s ∧
      r.files = w.files ∧ s.files = v.files ∧
      ((w.git.outcome "rev-parse").Foreseen → r.queries = Own.queries w) ∧
      ∀ text, (w.git.outcome "rev-parse").ending = .broken text →
        r.queries = (Own.queries w).take 1 ∧ r.result = .error (.git text) := by
  obtain ⟨hagrees, -⟩ := sideBySide_perform_version w v hself
  exact ⟨_, _, reports_version hrest w, reports_version (by simp) v, hagrees, (run_perform_version w).1,
    (run_perform_version v).1, queries_version w⟩

open World

/-- A described checkout, asked about from elsewhere, by someone with a timeout that cannot be used. -/
def elsewhere : World :=
  { describedAs "v1-5-gbeef" with
    here := ["elsewhere"]
    env := [(Environment.gitTimeout, "soon"), (Environment.logDirectory, "logs")]
    files := { entries := [(["elsewhere"], .directory)] } }

/-- The version is told as it is to someone with no settings at all, and the words behind are not even read. -/
theorem own_version_is_told_elsewhere :
    elsewhere.SameSelf (describedAs "v1-5-gbeef") ∧
      ∃ r, reports ["--version", "stamp", "--nope"] elsewhere = .ok r ∧ r.result = .ok .success ∧
        r.output = "1.0.0 (v1-5-beef)\n" ∧ r.errors = "" ∧ r.files = elsewhere.files ∧
        r.queries = Own.queries elsewhere := by
  have hself : elsewhere.SameSelf (describedAs "v1-5-gbeef") := ⟨rfl, rfl⟩
  have hrest : ∀ word ∈ ["stamp", "--nope"].head?, word.toList.head? ≠ some '-' := by decide
  obtain ⟨r, s, hr, hs, hagrees, hfiles, -, hqueries, -⟩ := own_version_is_up_to_git hself hrest
  have hshown : Console.layout "1.0.0 (v1-5-beef)" = .ok "1.0.0 (v1-5-beef)" := by decide
  obtain ⟨hresult, houtput, herrors⟩ := perform_version_of_shown Own.version_describedAs hshown
  obtain rfl := Except.ok.inj (hs.symm.trans (reports_version (by simp) _))
  exact ⟨hself, r, hr, hagrees.result.trans hresult, hagrees.output.trans houtput, hagrees.errors.trans herrors, hfiles,
    hqueries ((foreseen_describedAs "v1-5-gbeef").outcome "rev-parse")⟩

/-- Git that breaks off over the branch. -/
def branchless : World :=
  { describedAs "v1" with
    git :=
      { endings := [("rev-parse", .broken "embedded null byte"), ("describe", .exited 0 "v1\n".toUTF8 .empty)] } }

/-- Then it is not asked for the described tag, although it would have one. -/
theorem broken_branch_is_the_only_query :
    ∃ r, reports ["--version"] branchless = .ok r ∧ r.result = .error (.git "embedded null byte") ∧
      r.queries = [⟨.process, "/", ["rev-parse", "--abbrev-ref", "HEAD"], Settings.initial.gitTimeout⟩] ∧
      r.queries ≠ Own.queries branchless := by
  obtain ⟨hqueries, hresult⟩ := (queries_version branchless).2 "embedded null byte" rfl
  refine ⟨_, reports_version (by simp) _, hresult, hqueries, ?_⟩
  rw [hqueries]
  exact fun h => absurd (congrArg List.length h) (by decide)

end CommandLine
end VersionStamp
