/-
A resolved version is announced once.

`summary_is_said_once`: whoever resolves a version aloud finds its summary on the
stream asked for, as the console shows it, and nothing on the other one. On disk
the summary itself is one more line of the log file, or no file is changed.
Console and log get the same text, and only the console reads it as markup
(`summary_is_logged_as_it_is`).
-/
import VersionStamp.Proofs.LogLines
import VersionStamp.Proofs.OneLogFile

namespace VersionStamp

open VersionStamp.Action

namespace Resolver

variable {r : Resolver} {release : Bool} {stream : Stream} {w : World} {info : VersionInfo}

/-- What is printed on the way to a version is its summary. -/
theorem printed_resolve (h : ((r.resolve release stream).run w).result = .ok info) :
    ∃ shown, Console.layout info.summary = .ok shown ∧
      ((r.resolve release stream).run w).printed stream = shown ++ "\n" := by
  obtain ⟨hcompute, ⟨shown, hshown⟩, -⟩ := result_resolve_eq_ok_iff.1 h
  have hafter : w.after ((r.compute release).run w) = w := World.after_self _ _ (r.compute_silent release w).1
  have hlog : ((Log.log info.summary stream r.logDirectory).run w).result = .ok () := by
    obtain ⟨info', hinfo', hrest⟩ := result_bind_eq_ok.1 h
    obtain rfl := Except.ok.inj (hinfo'.symm.trans hcompute)
    obtain ⟨_, hlog, -⟩ := result_bind_eq_ok.1 hrest
    rwa [hafter] at hlog
  obtain ⟨-, hprinted, -⟩ := Log.log_of_layout hshown stream r.logDirectory w
  refine ⟨shown, hshown, ?_⟩
  rw [resolve, run_bind_ok hcompute, hafter, run_bind_ok hlog, Report.printed_andThen, Report.printed_andThen,
    quiet_compute, hprinted, quiet_pure, String.empty_append, String.append_empty]

/-- **One summary for a resolution.** Whenever a version is resolved aloud, in whatever mode, on either
stream, with any git and any files, its summary is printed once on that stream, as the console shows it,
and nothing on the other one. On disk the summary itself and a newline are added to the log file in the
directory of the resolver, or else of the environment, while all other files stay; or no file is
changed at all. Without a directory the files are as they were. -/
theorem summary_is_said_once (h : ((r.resolve release stream).run w).result = .ok info) :
    (∃ shown, Console.layout info.summary = .ok shown ∧
      ((r.resolve release stream).run w).printed stream = shown ++ "\n") ∧
    (∀ other, other ≠ stream → ((r.resolve release stream).run w).printed other = "") ∧
    (w.files.Grows ((r.resolve release stream).run w).files ∨
      ∃ p, Log.Extended w.here (Log.directoryFor w.env r.logDirectory) p w.files
        ((r.resolve release stream).run w).files [info.summary]) ∧
    (Log.directoryFor w.env r.logDirectory = "" → ((r.resolve release stream).run w).files = w.files) := by
  obtain ⟨hfiles, -⟩ := resolve_leaves h
  refine ⟨printed_resolve h, fun other hother => ?_, ?_, fun hnone => ?_⟩
  · exact quiet_resolve hother r release w
  · rw [hfiles]
    exact (Log.record_extends r.logDirectory info.summary w).imp_right And.right
  · rw [hfiles]
    exact Log.files_record_of_no_directory hnone info.summary

/-- Markup in the base version is for the console. The log has the summary as it is. -/
theorem summary_is_logged_as_it_is :
    ((({ directory := "/repo", baseVersion := "1[b]2[/b]" } : Resolver).resolve true .errors).run
        (World.loggingTo "/")).result = .ok ⟨"1[b]2[/b]", "SNAPSHOT", .release, "", "1[b]2[/b]-SNAPSHOT", none⟩ ∧
      ((({ directory := "/repo", baseVersion := "1[b]2[/b]" } : Resolver).resolve true .errors).run
        (World.loggingTo "/")).errors = "Building RELEASE (unknown): 12-SNAPSHOT\n" ∧
      ((({ directory := "/repo", baseVersion := "1[b]2[/b]" } : Resolver).resolve true .errors).run
        (World.loggingTo "/")).files.get? ["buildstamp.log"] =
          some (.file "Building RELEASE (unknown): 1[b]2[/b]-SNAPSHOT\n".toUTF8) := by
  have hcompute : ((({ directory := "/repo", baseVersion := "1[b]2[/b]" } : Resolver).compute true).run
      (World.loggingTo "/")).result = .ok ⟨"1[b]2[/b]", "SNAPSHOT", .release, "", "1[b]2[/b]-SNAPSHOT", none⟩ := rfl
  have hsummary : VersionInfo.summary ⟨"1[b]2[/b]", "SNAPSHOT", .release, "", "1[b]2[/b]-SNAPSHOT", none⟩ =
      "Building RELEASE (unknown): 1[b]2[/b]-SNAPSHOT" := by decide
  have hlayout : Console.layout "Building RELEASE (unknown): 1[b]2[/b]-SNAPSHOT" =
      .ok "Building RELEASE (unknown): 12-SNAPSHOT" := by decide +kernel
  have hresult := result_resolve (show Text.NulFree "" by decide)
    (World.nulFree_env_loggingTo (show Text.NulFree "/" by decide)) hcompute .errors
  rw [hsummary, hlayout] at hresult
  obtain ⟨⟨shown, hshown, hprinted⟩, -, -, -⟩ := summary_is_said_once hresult
  rw [hsummary, hlayout] at hshown
  obtain rfl := Except.ok.inj hshown
  refine ⟨hresult, hprinted, ?_⟩
  have hdirectory : Log.directoryFor (World.loggingTo "/").env "" = "/" := rfl
  have hmade : (World.loggingTo "/").files.createDirectories (World.loggingTo "/").here "/".toList =
      ((World.loggingTo "/").files, .ok ()) := FileTree.createDirectories_of_isDirectory rfl
  rw [(resolve_leaves hresult).1, hsummary]
  simp only [Log.record, Log.prepare, hdirectory]
  rw [if_neg (by decide), hmade]
  rfl

end Resolver

/-- A command that resolves a version announces it the same way. -/
theorem CommandLine.ResolveOptions.printed_resolveWith {o : ResolveOptions} {s : Settings} {stream : Stream} {w : World}
    {info : VersionInfo} (h : ((o.resolveWith s stream).run w).result = .ok info) :
    ∃ shown, Console.layout info.summary = .ok shown ∧
      ((o.resolveWith s stream).run w).printed stream = shown ++ "\n" := by
  rw [resolveWith_run] at h ⊢
  cases hcheckout : Checkout.locate w (o.startIn w) with
  | error e =>
    rw [hcheckout] at h
    cases h
  | ok checkout =>
    rw [hcheckout] at h
    exact Resolver.printed_resolve h

end VersionStamp
