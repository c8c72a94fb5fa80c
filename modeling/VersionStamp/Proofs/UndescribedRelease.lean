/-
A release does not depend on how git describes the checkout.

Two worlds are `Twins` if they are the same but for that description, the moment,
and the line in the files that tells it. Whatever resolves a release comes to the
same in twins and leaves twins behind, step by step: asking for the branch,
logging, storing. `release_ignores_describe` says so of the commands, where a
release is requested by the flag or by the task of the environment, and of every
resolver.
-/
import VersionStamp.Proofs.Demands
import VersionStamp.Proofs.GitOutcomes
import VersionStamp.Proofs.OneLogFile
import VersionStamp.Proofs.ResolvingCommands

namespace VersionStamp

open VersionStamp.Action

/-! ## Twins -/

/-- Two worlds with this environment that are the same but for how git describes the checkout, the moment,
and where the files tell it. -/
structure World.Twins (env : Environment) (w v : World) : Prop where
  env_left : w.env = env
  env_right : v.env = env
  here : w.here = v.here
  accountHome : w.accountHome = v.accountHome
  outcome : ∀ c, c ≠ "describe" → w.git.outcome c = v.git.outcome c
  files : w.files.SameUpTo (Stamp.SameBut w.now v.now) v.files

variable {env : Environment} {w v : World}

theorem resembling_twins : Resembling (World.Twins env) where
  resembles h := ⟨by rw [h.env_left, h.env_right], h.here, h.files⟩
  withFiles h hfiles := { h with files := hfiles }

/-- Twins enclose the same checkout. -/
theorem World.Twins.locate_eq (h : w.Twins env v) (path : String) :
    Checkout.locate w path = Checkout.locate v path := by
  have hhome : Checkout.homeOf w = Checkout.homeOf v := by
    rw [Checkout.homeOf, Checkout.homeOf, h.env_left, h.env_right, h.accountHome]
  have hmarked : Checkout.isMarked w.files v.here = Checkout.isMarked v.files v.here := by
    funext l
    rw [Checkout.isMarked, Checkout.isMarked, h.files.holds]
  simp only [Checkout.locate, Checkout.expandHome, Checkout.enclosing, hhome, h.here, hmarked]

/-! ## Steps in twins -/

namespace Resolver

/-- For a release git is asked for the branch alone. -/
theorem sideBySide_compute (r : Resolver) :
    SideBySide (World.Twins env) (r.compute true) (r.compute true) :=
  (sideBySide_ask fun _ _ h => answer_branchQuery_eq (h.outcome _ (by decide)) r).bind fun _ => sideBySide_pure _

theorem sideBySide_resolve (r : Resolver) (stream : Stream) :
    SideBySide (World.Twins env) (r.resolve true stream) (r.resolve true stream) :=
  r.sideBySide_compute.bind fun _ => (resembling_twins.log _ _ _ _).bind fun _ => sideBySide_pure _

end Resolver

/-! ## Commands in twins -/

namespace CommandLine

namespace ResolveOptions

variable {o : ResolveOptions} {s : Settings}

theorem sideBySide_resolveWith (hwants : o.wantsRelease s = true) (stream : Stream) :
    SideBySide (World.Twins env) (o.resolveWith s stream) (o.resolveWith s stream) := by
  refine sideBySide_world fun w v h => ?_
  have hstart : o.startIn w = o.startIn v := by rw [startIn, startIn, h.env_left, h.env_right, h.here]
  rw [h.locate_eq, hstart, hwants]
  exact (sideBySide_ofExcept _).bind fun _ => Resolver.sideBySide_resolve _ _

/-- A release is requested by the flag, or by the task that the environment names. -/
def RequestsRelease (o : ResolveOptions) (env : Environment) : Prop :=
  o.release = true ∨ Settings.orElse (Text.trim (env.text Environment.releaseTask)) "release" ∈ o.tasks

theorem wantsRelease_of_requests (h : o.RequestsRelease env) (hs : Settings.ofEnvironment env = .ok s) :
    o.wantsRelease s = true := by
  rw [wantsRelease, isReleaseRequested, (Settings.reads_ofEnvironment hs).releaseTask, Bool.or_eq_true,
    List.contains_iff_mem]
  exact h

theorem sideBySide_resolving (h : o.RequestsRelease env) (stream : Stream) {next : VersionInfo → Action ExitStatus}
    (hnext : ∀ info, SideBySide (World.Twins env) (next info) (next info)) :
    SideBySide (World.Twins env) (o.resolving stream next) (o.resolving stream next) := by
  refine sideBySide_world fun w v htwins => ?_
  rw [htwins.env_left, htwins.env_right]
  cases hs : Settings.ofEnvironment env with
  | error e => exact sideBySide_complain _
  | ok s => exact (sideBySide_resolveWith (wantsRelease_of_requests h hs) stream).bind hnext

end ResolveOptions

/-- Whatever resolves a release does the same in twins. -/
theorem Command.sideBySide_perform {c : Command} {o : ResolveOptions} (ho : c.resolveOptions? = some o)
    (h : o.RequestsRelease env) : SideBySide (World.Twins env) c.perform c.perform := by
  have hkind : ∃ kind : Kind, c = kind.command o := by
    cases c with
    | show_ path => cases ho
    | printVersion o' => exact ⟨.printVersion, congrArg Command.printVersion (Option.some.inj ho)⟩
    | resolve o' => exact ⟨.resolve o.json, congrArg Command.resolve (Option.some.inj ho)⟩
    | stamp output o' => exact ⟨.stamp output, congrArg (Command.stamp output) (Option.some.inj ho)⟩
  obtain ⟨kind, rfl⟩ := hkind
  rw [kind.perform_command]
  exact ResolveOptions.sideBySide_resolving h _ (kind.sideBySide_goOn resembling_twins)

/-- **A release does not depend on how git describes the checkout**, whatever the world, and whatever another
behaviour of git makes of the description: another text, a failure of any kind, no entry at all. Every command
that requests a release comes to the same at any moment, prints the same on both streams, asks git the same, and
leaves the same files but for the line of a stamp that tells the moment; with one moment there is no such
difference. The same holds of every resolver, without a word and aloud. -/
theorem release_ignores_describe {w : World} {g : Git} (hg : ∀ c, c ≠ "describe" → g.outcome c = w.git.outcome c)
    (now : Moment) :
    (∀ (c : Command) (o : ResolveOptions), c.resolveOptions? = some o → o.RequestsRelease w.env →
      (c.perform.run w).Agrees (c.perform.run { w with git := g, now := now }) ∧
      (c.perform.run w).files.SameUpTo (Stamp.SameBut w.now now)
        (c.perform.run { w with git := g, now := now }).files) ∧
    (∀ r : Resolver,
      ((r.compute true).run w).Agrees ((r.compute true).run { w with git := g, now := now }) ∧
      ((r.compute true).run w).files.SameUpTo (Stamp.SameBut w.now now)
        ((r.compute true).run { w with git := g, now := now }).files) ∧
    (∀ (r : Resolver) (stream : Stream),
      ((r.resolve true stream).run w).Agrees ((r.resolve true stream).run { w with git := g, now := now }) ∧
      ((r.resolve true stream).run w).files.SameUpTo (Stamp.SameBut w.now now)
        ((r.resolve true stream).run { w with git := g, now := now }).files) := by
  have htwins : w.Twins w.env { w with git := g, now := now } :=
    { env_left := rfl
      env_right := rfl
      here := rfl
      accountHome := rfl
      outcome := fun c hc => (hg c hc).symm
      files := .refl (fun _ => .inl rfl) w.files }
  refine ⟨fun c o ho hrelease => ?_, fun r => ?_, fun r stream => ?_⟩
  · obtain ⟨hagrees, hafter⟩ := Command.sideBySide_perform ho hrelease _ _ htwins
    exact ⟨hagrees, hafter.files⟩
  · obtain ⟨hagrees, hafter⟩ := r.sideBySide_compute _ _ htwins
    exact ⟨hagrees, hafter.files⟩
  · obtain ⟨hagrees, hafter⟩ := r.sideBySide_resolve stream _ _ htwins
    exact ⟨hagrees, hafter.files⟩

/-! ## A description that breaks off -/

open World

/-- A release by its task, in a described checkout. -/
theorem release_describedAs :
    ((printVersion { tasks := ["build", "release"] }).run (describedAs "v1-5-gbeef")).result = .ok .success ∧
      ((printVersion { tasks := ["build", "release"] }).run (describedAs "v1-5-gbeef")).output = "3.0.0-SNAPSHOT\n" ∧
      ((stamp "out" { tasks := ["build", "release"] }).run (describedAs "v1-5-gbeef")).result = .ok .success := by
  have hs : Settings.ofEnvironment (describedAs "v1-5-gbeef").env = .ok Settings.initial :=
    Settings.ofEnvironment_nil
  have henv := Resolver.nulFree_env_describedAs "v1-5-gbeef"
  obtain ⟨checkout, hcheckout⟩ : ∃ checkout, Checkout.locate (describedAs "v1-5-gbeef") "/" = .ok checkout := ⟨_, rfl⟩
  have hinfo : (((Resolver.ofSettings checkout.text
      (ResolveOptions.override { tasks := ["build", "release"] } Settings.initial)).compute true).run
        (describedAs "v1-5-gbeef")).result = .ok ⟨"3.0.0", "SNAPSHOT", .release, "", "3.0.0-SNAPSHOT", none⟩ :=
    compute_describedAs (by decide) (by decide) rfl true
  have hwants : ResolveOptions.wantsRelease { tasks := ["build", "release"] } Settings.initial = true := by decide
  have hstart : ResolveOptions.startIn { tasks := ["build", "release"] } (describedAs "v1-5-gbeef") = "/" := rfl
  rw [← hwants] at hinfo
  rw [← hstart] at hcheckout
  have hresolve := resolveWith_of_compute hcheckout (show Text.NulFree "" by decide) henv hinfo (by decide)
  obtain ⟨hdone, hprinted⟩ := printVersion_of_resolveWith hs (hresolve .errors)
  have hplain : Console.plain "3.0.0-SNAPSHOT" ++ "\n" = "3.0.0-SNAPSHOT\n" := by decide
  have hsame := ResolveOptions.resolveWith_leaves (hresolve .output)
  rw [Log.files_record_of_no_directory rfl] at hsame
  refine ⟨hdone, hprinted.trans hplain, stamp_of_resolveWith hs (hresolve .output) ?_ henv
    (show '[' ∉ ("Wrote " ++ "/out").toList by decide)⟩
  rw [World.after_self _ _ hsame]
  exact Stamp.store_describedAs _ _

/-- How git behaves that breaks off over the description. -/
def breakingOff : Git where
  endings := [("describe", .broken "embedded null byte")]

/-- The same checkout a day later, when git breaks off. -/
def dayAfter : World := { describedAs "v1-5-gbeef" with git := breakingOff, now := .utc 86400 }

/-- The release is printed and stamped all the same. -/
theorem release_on_day_after :
    (∀ c, c ≠ "describe" → breakingOff.outcome c = (describedAs "v1-5-gbeef").git.outcome c) ∧
    ResolveOptions.RequestsRelease { tasks := ["build", "release"] } (describedAs "v1-5-gbeef").env ∧
    ((printVersion { tasks := ["build", "release"] }).run dayAfter).output = "3.0.0-SNAPSHOT\n" ∧
    ((stamp "out" { tasks := ["build", "release"] }).run dayAfter).result = .ok .success ∧
    ((stamp "out" { tasks := ["build", "release"] }).run (describedAs "v1-5-gbeef")).files.SameUpTo
      (Stamp.SameBut (.utc 0) (.utc 86400)) ((stamp "out" { tasks := ["build", "release"] }).run dayAfter).files := by
  have hgit : ∀ c, c ≠ "describe" → breakingOff.outcome c = (describedAs "v1-5-gbeef").git.outcome c := by
    intro c hc
    simp [Git.outcome, breakingOff, describedAs, Ledger.get?, Ne.symm hc]
  have hrelease : ResolveOptions.RequestsRelease { tasks := ["build", "release"] } (describedAs "v1-5-gbeef").env :=
    .inr (by decide)
  obtain ⟨-, hprinted, hstamped⟩ := release_describedAs
  obtain ⟨hcommands, -⟩ := release_ignores_describe hgit (.utc 86400)
  obtain ⟨hprint, -⟩ := hcommands (.printVersion { tasks := ["build", "release"] }) _ rfl hrelease
  obtain ⟨hstamp, hfiles⟩ := hcommands (.stamp "out" { tasks := ["build", "release"] }) _ rfl hrelease
  exact ⟨hgit, hrelease, hprint.output.symm.trans hprinted, hstamp.result.symm.trans hstamped, hfiles⟩

end CommandLine
end VersionStamp
