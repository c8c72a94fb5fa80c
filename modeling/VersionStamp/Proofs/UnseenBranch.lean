/-
A build does not embed its branch.

The branch is asked for, shown and logged. But two behaviours of git that
describe a checkout alike resolve to versions that differ in the branch alone
(`compute_sameVersion`), and none of the texts that are embedded is made of it.
So `branch_is_not_embedded`: whatever becomes of the branch, the same is printed
for a script to read, and the same is stamped.
-/
import VersionStamp.Proofs.GitOutcomes
import VersionStamp.Proofs.ResolvingCommands

namespace VersionStamp

namespace VersionInfo

variable {a b : VersionInfo}

theorem sameVersion_iff : a.sameVersion b = true ↔ b = { a with branch := b.branch } := by
  cases a
  cases b
  simp only [sameVersion, decide_eq_true_eq, mk.injEq, and_true]
  constructor <;> intro h <;> simp [h]

theorem displayVersion_eq (h : a.sameVersion b = true) : a.displayVersion = b.displayVersion := by
  rw [sameVersion_iff.1 h]

/-- The branch is not among the entries of a stamp. -/
theorem render_eq (h : a.sameVersion b = true) (now : Moment) : Properties.render a now = Properties.render b now := by
  rw [sameVersion_iff.1 h]
  rfl

end VersionInfo

/-- What is resolved under two behaviours of git that describe the checkout alike differs in the branch alone. -/
theorem Resolver.compute_sameVersion {w v : World} (hdescribe : w.git.outcome "describe" = v.git.outcome "describe")
    {r : Resolver} {release : Bool} {info info' : VersionInfo} (h : ((r.compute release).run w).result = .ok info)
    (h' : ((r.compute release).run v).result = .ok info') : info.sameVersion info' = true := by
  obtain ⟨branch, -, hcase⟩ := compute_eq_ok h
  obtain ⟨branch', -, hcase'⟩ := compute_eq_ok h'
  cases release with
  | true =>
    obtain ⟨-, rfl⟩ | ⟨hsnapshot, -⟩ := hcase
    · obtain ⟨-, rfl⟩ | ⟨hsnapshot, -⟩ := hcase'
      · exact VersionInfo.sameVersion_iff.2 rfl
      · cases hsnapshot
    · cases hsnapshot
  | false =>
    obtain ⟨hrelease, -⟩ | ⟨-, described, hdescribed, rfl⟩ := hcase
    · cases hrelease
    obtain ⟨hrelease, -⟩ | ⟨-, described', hdescribed', rfl⟩ := hcase'
    · cases hrelease
    rw [answer_describeQuery_eq hdescribe] at hdescribed
    obtain rfl := Except.ok.inj (hdescribed.symm.trans hdescribed')
    exact VersionInfo.sameVersion_iff.2 rfl

namespace CommandLine

/-- Neither behaviour of git has a say in which checkout it is asked about. -/
theorem ResolveOptions.resolveWith_sameVersion {g g' : Git} (hdescribe : g.outcome "describe" = g'.outcome "describe")
    {w : World} {now : Moment} {o : ResolveOptions} {s : Settings} {stream : Stream} {info info' : VersionInfo}
    (h : ((o.resolveWith s stream).run { w with git := g }).result = .ok info)
    (h' : ((o.resolveWith s stream).run { w with git := g', now := now }).result = .ok info') :
    info.sameVersion info' = true := by
  have hsame : Checkout.locate { w with git := g', now := now } (o.startIn { w with git := g', now := now }) =
      Checkout.locate { w with git := g } (o.startIn { w with git := g }) := rfl
  rw [resolveWith_run] at h h'
  rw [hsame] at h'
  cases hcheckout : Checkout.locate { w with git := g } (o.startIn { w with git := g }) with
  | error e =>
    rw [hcheckout] at h
    cases h
  | ok checkout =>
    rw [hcheckout] at h h'
    exact Resolver.compute_sameVersion (v := { w with git := g', now := now }) hdescribe
      (Resolver.compute_of_resolve h) (Resolver.compute_of_resolve h')

/-- **The branch is not embedded**, whatever the world, for two behaviours of git that describe the
checkout alike, and that do not break off over the branch or the description. Every resolver has a version
under both, in either mode; the two are equal as versions, differ in the branch alone, and are rendered
alike at any moment. If `print-version` succeeds under both, it prints the same. If `stamp` does, there is one
version that the output holds afterwards, each time with its own moment of writing, unless the output is
named as the log file. -/
theorem branch_is_not_embedded {g g' : Git} (hdescribe : g.outcome "describe" = g'.outcome "describe")
    (hg : ∀ c ∈ ["rev-parse", "describe"], (g.outcome c).Foreseen)
    (hg' : ∀ c ∈ ["rev-parse", "describe"], (g'.outcome c).Foreseen) (w : World) (now : Moment) :
    (∀ (r : Resolver) (release : Bool), ∃ info info',
      ((r.compute release).run { w with git := g }).result = .ok info ∧
      ((r.compute release).run { w with git := g', now := now }).result = .ok info' ∧
      info.sameVersion info' = true ∧ info' = { info with branch := info'.branch } ∧
      ∀ moment, Properties.render info moment = Properties.render info' moment) ∧
    (∀ o : ResolveOptions,
      ((printVersion o).run { w with git := g }).result = .ok .success →
      ((printVersion o).run { w with git := g', now := now }).result = .ok .success →
      ((printVersion o).run { w with git := g }).output =
        ((printVersion o).run { w with git := g', now := now }).output) ∧
    (∀ (output : String) (o : ResolveOptions),
      ((stamp output o).run { w with git := g }).result = .ok .success →
      ((stamp output o).run { w with git := g', now := now }).result = .ok .success →
      ¬Log.IsNameOf w.here output → ∃ info,
        ((stamp output o).run { w with git := g }).files.HoldsFile w.here (Location.ofPath w.here output).text
          (Properties.render info w.now).toUTF8 ∧
        ((stamp output o).run { w with git := g', now := now }).files.HoldsFile w.here
          (Location.ofPath w.here output).text (Properties.render info now).toUTF8) := by
  refine ⟨fun r release => ?_, fun o hdone hdone' => ?_, fun output o hdone hdone' hname => ?_⟩
  · obtain ⟨info, hinfo⟩ := Resolver.compute_of_foreseen (w := { w with git := g }) (hg _ (by simp)) (hg _ (by simp))
      r release
    obtain ⟨info', hinfo'⟩ := Resolver.compute_of_foreseen (w := { w with git := g', now := now }) (hg' _ (by simp))
      (hg' _ (by simp)) r release
    have hsame := Resolver.compute_sameVersion (v := { w with git := g', now := now }) hdescribe hinfo hinfo'
    exact ⟨info, info', hinfo, hinfo', hsame, VersionInfo.sameVersion_iff.1 hsame, VersionInfo.render_eq hsame⟩
  · obtain ⟨s, info, hs, hinfo, -⟩ := printVersion_leaves hdone
    obtain ⟨s', info', hs', hinfo', -⟩ := printVersion_leaves hdone'
    obtain rfl : s = s' := Except.ok.inj (hs.symm.trans hs')
    have hsame := ResolveOptions.resolveWith_sameVersion hdescribe hinfo hinfo'
    rw [(printVersion_of_resolveWith hs hinfo).2, (printVersion_of_resolveWith hs' hinfo').2,
      VersionInfo.displayVersion_eq hsame]
  · obtain ⟨s, info, hs, hinfo, -, hholds⟩ := stamp_holdsFile hdone
    obtain ⟨s', info', hs', hinfo', -, hholds'⟩ := stamp_holdsFile hdone'
    obtain rfl : s = s' := Except.ok.inj (hs.symm.trans hs')
    have hsame := ResolveOptions.resolveWith_sameVersion hdescribe hinfo hinfo'
    refine ⟨info, hholds hname, ?_⟩
    rw [VersionInfo.render_eq hsame]
    exact hholds' hname

end CommandLine

/-! ## Two endings of the query for the branch -/

namespace World

/-- The described checkout, with an ending of the query for the branch. -/
def onBranch (text : String) (branch : Git.Ending) : World :=
  { describedAs text with
    git := { endings := [("describe", .exited 0 (text ++ "\n").toUTF8 .empty), ("rev-parse", branch)] } }

/-- Git names the branch `main`. -/
def onMain : Git.Ending := .exited 0 ("main" ++ "\n").toUTF8 .empty

variable {text : String} {branch : Git.Ending} {a : Git.Answer}

theorem foreseen_onBranch (h : ∀ said, branch ≠ .broken said) :
    ∀ c ∈ ["rev-parse", "describe"], ((onBranch text branch).git.outcome c).Foreseen := by
  intro c hc
  obtain rfl | hc := List.mem_cons.1 hc
  · exact h
  · obtain rfl := List.mem_singleton.1 hc
    exact nofun

theorem compute_onBranch (h : Text.trim (Text.unifyBreaks (text ++ "\n")) = text) (hne : text ≠ "")
    {r : Resolver} (hr : r.runner = .process) (hbranch : branch.answer r.timeout = .ok a) :
    ((r.compute false).run (onBranch text branch)).result =
      .ok (r.snapshotInfo a.value? (.found (Git.compact text))) := by
  have hb : (onBranch text branch).git.answer r.branchQuery = .ok a := by
    rw [Git.answer, Resolver.branchQuery, Resolver.query, hr]
    exact hbranch
  have hd : (onBranch text branch).git.answer r.describeQuery = .ok (.found text) := by
    rw [Resolver.answer_describeQuery hr]
    exact Git.answer_eq_found_iff.2 (describe_describedAs h hne)
  rw [Resolver.compute_run, hb, hd]
  rfl

end World

namespace CommandLine

open World

/-- What is resolved with the settings of an empty environment. -/
def snapshotOn (text : String) (branch : Option String) : VersionInfo where
  baseVersion := "3.0.0"
  suffix := "SNAPSHOT"
  mode := .snapshot
  revision := Git.compact text
  displayVersion := joinSuffix (Git.compact text) "SNAPSHOT"
  branch := branch

/-- In the described checkout the version is printed and stamped, as long as no markup is in the description
or in the branch. -/
theorem commands_onBranch {text : String} {branch : Git.Ending} {a : Git.Answer}
    (h : Text.trim (Text.unifyBreaks (text ++ "\n")) = text) (hne : text ≠ "")
    (hbranch : branch.answer Settings.initial.gitTimeout = .ok a) (hbracket : '[' ∉ (Git.compact text).toList)
    (hno : ∀ b ∈ a.value?, '[' ∉ b.toList) :
    ((printVersion {}).run (onBranch text branch)).result = .ok .success ∧
      ((printVersion {}).run (onBranch text branch)).output =
        Console.plain (joinSuffix (Git.compact text) "SNAPSHOT") ++ "\n" ∧
      ((stamp "out" {}).run (onBranch text branch)).result = .ok .success := by
  have hs : Settings.ofEnvironment (onBranch text branch).env = .ok Settings.initial :=
    Settings.ofEnvironment_nil
  have henv : (onBranch text branch).env.NulFree := Resolver.nulFree_env_describedAs text
  obtain ⟨checkout, hcheckout⟩ : ∃ checkout, Checkout.locate (onBranch text branch) "/" = .ok checkout := ⟨_, rfl⟩
  have hinfo : (((Resolver.ofSettings checkout.text (ResolveOptions.override {} Settings.initial)).compute false).run
      (onBranch text branch)).result = .ok (snapshotOn text a.value?) :=
    compute_onBranch h hne rfl hbranch
  have hsummary : '[' ∉ (snapshotOn text a.value?).summary.toList :=
    VersionInfo.no_bracket_summary hno nofun hbracket
  have hresolve : ∀ stream, ((ResolveOptions.resolveWith {} Settings.initial stream).run
      (onBranch text branch)).result = .ok (snapshotOn text a.value?) :=
    resolveWith_of_compute hcheckout (show Text.NulFree "" by decide) henv hinfo hsummary
  obtain ⟨hdone, hprinted⟩ := printVersion_of_resolveWith hs (hresolve .errors)
  refine ⟨hdone, hprinted, ?_⟩
  have hsame : ((ResolveOptions.resolveWith {} Settings.initial .output).run (onBranch text branch)).files =
      (onBranch text branch).files := by
    rw [ResolveOptions.resolveWith_leaves (hresolve .output)]
    exact Log.files_record_of_no_directory rfl _
  refine stamp_of_resolveWith hs (hresolve .output) ?_ henv (show '[' ∉ ("Wrote " ++ "/out").toList by decide)
  rw [World.after_self _ _ hsame]
  exact Stamp.store_describedAs text _

/-- A branch that git names, and one that it takes too long to name. -/
theorem named_branch_is_not_embedded :
    (∃ info info',
      (((Resolver.ofSettings "/" Settings.initial).compute false).run (onBranch "v1-5-gbeef" onMain)).result =
        .ok info ∧
      (((Resolver.ofSettings "/" Settings.initial).compute false).run (onBranch "v1-5-gbeef" .timedOut)).result =
        .ok info' ∧
      info.branch = some "main" ∧ info'.branch = none ∧ info.sameVersion info' = true) ∧
    ((printVersion {}).run (onBranch "v1-5-gbeef" onMain)).output = "v1-5-beef-SNAPSHOT\n" ∧
    ((printVersion {}).run (onBranch "v1-5-gbeef" .timedOut)).output = "v1-5-beef-SNAPSHOT\n" ∧
    ∃ info,
      ((stamp "out" {}).run (onBranch "v1-5-gbeef" onMain)).files.HoldsFile [] "/out"
        (Properties.render info (.utc 0)).toUTF8 ∧
      ((stamp "out" {}).run (onBranch "v1-5-gbeef" .timedOut)).files.HoldsFile [] "/out"
        (Properties.render info (.utc 0)).toUTF8 := by
  have htrim : Text.trim (Text.unifyBreaks ("v1-5-gbeef" ++ "\n")) = "v1-5-gbeef" := by decide
  have hmain : ∀ limit, onMain.answer limit = .ok (.found "main") := fun limit =>
    Git.answer_eq_found_iff.2 ⟨_, _, "main" ++ "\n", "", rfl, Text.Utf8.decode_toByteArray _, rfl, by decide, by decide⟩
  have hlate : Git.Ending.timedOut.answer Settings.initial.gitTimeout =
      .ok (.absent (.timedOut Settings.initial.gitTimeout)) := rfl
  obtain ⟨hdone, hprinted, hstamped⟩ := commands_onBranch htrim (by decide) (hmain _) (by decide) (by decide)
  obtain ⟨hdone', hprinted', hstamped'⟩ := commands_onBranch htrim (by decide) hlate (by decide) nofun
  have hdescribe : (onBranch "v1-5-gbeef" onMain).git.outcome "describe" =
      (onBranch "v1-5-gbeef" .timedOut).git.outcome "describe" := rfl
  obtain ⟨hcompute, hprint, hstamp⟩ := branch_is_not_embedded hdescribe (foreseen_onBranch nofun)
    (foreseen_onBranch nofun) (describedAs "v1-5-gbeef") (.utc 0)
  have hplain : Console.plain (joinSuffix (Git.compact "v1-5-gbeef") "SNAPSHOT") ++ "\n" = "v1-5-beef-SNAPSHOT\n" := by
    decide
  have hread := hprinted.trans hplain
  refine ⟨?_, hread, (hprint {} hdone hdone').symm.trans hread, hstamp "out" {} hstamped hstamped' (by decide)⟩
  obtain ⟨info, info', hinfo, hinfo', hsame, -⟩ := hcompute (.ofSettings "/" Settings.initial) false
  refine ⟨info, info', hinfo, hinfo', ?_, ?_, hsame⟩
  · rw [← Except.ok.inj ((compute_onBranch htrim (by decide) rfl (hmain _)).symm.trans hinfo)]
    rfl
  · rw [← Except.ok.inj ((compute_onBranch htrim (by decide) rfl hlate).symm.trans hinfo')]
    rfl

end CommandLine
end VersionStamp
