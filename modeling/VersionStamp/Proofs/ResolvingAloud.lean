/-
Resolving aloud gives what resolving without a word gives, as far as the
console can show the summary.

`resolve_eq_ok_iff` says so for every resolver, every state of the files and
every behaviour of git that is foreseen: neither git nor the log file is ever
the reason why there is no version. The summary is printed as markup although
the base version and the suffix may be any text, and so it can be one that the
console refuses: `closing_tag_in_base_version_is_not_resolved`.
-/
import VersionStamp.Proofs.Logging
import VersionStamp.Proofs.ShownText

namespace VersionStamp

open World

/-- A summary has no bracket unless one of the texts has that it is made of; that of a release is
made of the version, and any other of the revision. -/
theorem VersionInfo.no_bracket_summary {info : VersionInfo} (hbranch : ∀ b ∈ info.branch, '[' ∉ b.toList)
    (hversion : info.isRelease = true → '[' ∉ info.displayVersion.toList) (hrevision : '[' ∉ info.revision.toList) :
    '[' ∉ info.summary.toList := by
  have hshown : '[' ∉ info.shownBranch.toList := by
    rw [shownBranch]
    split
    · decide
    next b hb =>
      split
      · decide
      · exact hbranch b hb
  rw [summary]
  split
  next hrelease => simp [hshown, hversion hrelease]
  · split
    · decide
    · simp [hshown, hrevision]

namespace Resolver

/-- **Resolving aloud gives the version that resolving without a word gives exactly if the console
can show the summary**, and fails over its markup otherwise. The paths of the log directory hold no
NUL, whether they were given or come from the environment. -/
theorem resolve_eq_ok_iff {r : Resolver} {w : World} (hlog : Text.NulFree r.logDirectory) (henv : w.env.NulFree)
    (hgit : w.git.Foreseen) (release : Bool) (stream : Stream) :
    ∃ info, ((r.compute release).run w).result = .ok info ∧
      (((r.resolve release stream).run w).result = .ok info ↔ Console.Shown info.summary) ∧
      (¬Console.Shown info.summary →
        ∃ cause, ((r.resolve release stream).run w).result = .error (.console (.markup cause))) := by
  obtain ⟨info, hinfo⟩ := compute_foreseen hgit r release
  refine ⟨info, hinfo, ?_⟩
  rw [result_resolve hlog henv hinfo]
  rcases Console.layout_cases info.summary with ⟨hshown, shown, hlayout⟩ | ⟨hshown, cause, hlayout⟩
  · rw [hlayout]
    exact ⟨iff_of_true rfl hshown, fun h => absurd hshown h⟩
  · rw [hlayout]
    exact ⟨iff_of_false nofun hshown, fun _ => ⟨cause, rfl⟩⟩

theorem nulFree_env_describedAs (text : String) : (describedAs text).env.NulFree := by
  intro name value h
  cases h

/-- In a described checkout a snapshot is resolved aloud, as long as no markup is in the
description. -/
theorem resolve_describedAs {text : String} (h : Text.trim (Text.unifyBreaks (text ++ "\n")) = text) (hne : text ≠ "")
    (hbracket : '[' ∉ (Git.compact text).toList) {r : Resolver} (hrunner : r.runner = .process)
    (hlog : r.logDirectory = "") (stream : Stream) :
    ((r.resolve false stream).run (describedAs text)).result =
      .ok (r.snapshotInfo none (.found (Git.compact text))) := by
  have hcompute := compute_describedAs h hne hrunner false
  rw [if_neg Bool.false_ne_true] at hcompute
  have hsummary : '[' ∉ (r.snapshotInfo none (.found (Git.compact text))).summary.toList :=
    VersionInfo.no_bracket_summary nofun nofun hbracket
  have hshown := Console.shown_of_no_bracket hsummary
  obtain ⟨shown, hlayout⟩ := Console.layout_eq_ok_iff.2 hshown
  rw [result_resolve (hlog ▸ show Text.NulFree "" by decide) (nulFree_env_describedAs text) hcompute, hlayout]

/-- Nothing in a described version is markup. -/
theorem described_version_is_resolved :
    (describedAs "v1-5-gbeef").env.NulFree ∧ (describedAs "v1-5-gbeef").git.Foreseen ∧
      (((ofSettings "/repo" Settings.initial).resolve false .output).run (describedAs "v1-5-gbeef")).result =
        .ok ⟨"3.0.0", "SNAPSHOT", .snapshot, "v1-5-beef", "v1-5-beef-SNAPSHOT", none⟩ := by
  have henv := nulFree_env_describedAs "v1-5-gbeef"
  have hgit := foreseen_describedAs "v1-5-gbeef"
  obtain ⟨info, hinfo, hresolve, -⟩ := resolve_eq_ok_iff (r := .ofSettings "/repo" Settings.initial)
    (show Text.NulFree "" by decide) henv hgit false .output
  obtain rfl := Except.ok.inj (hinfo.symm.trans (compute_describedAs (by decide) (by decide) rfl false))
  exact ⟨henv, hgit, hresolve.2 (Console.shown_of_no_bracket (by decide))⟩

/-- A base version that closes a tag which nobody opened. Without a word it is resolved, aloud it
is not. -/
theorem closing_tag_in_base_version_is_not_resolved :
    (describedAs "v1").env.NulFree ∧ (describedAs "v1").git.Foreseen ∧
      ((({ directory := "/repo", baseVersion := "3.0[/x]" } : Resolver).compute true).run (describedAs "v1")).result =
        .ok ⟨"3.0[/x]", "SNAPSHOT", .release, "", "3.0[/x]-SNAPSHOT", none⟩ ∧
      ∃ cause, ((({ directory := "/repo", baseVersion := "3.0[/x]" } : Resolver).resolve true .output).run
        (describedAs "v1")).result = .error (.console (.markup cause)) := by
  have henv := nulFree_env_describedAs "v1"
  have hinfo : ((({ directory := "/repo", baseVersion := "3.0[/x]" } : Resolver).compute true).run
      (describedAs "v1")).result = .ok ⟨"3.0[/x]", "SNAPSHOT", .release, "", "3.0[/x]-SNAPSHOT", none⟩ :=
    compute_describedAs (by decide) (by decide) rfl true
  refine ⟨henv, foreseen_describedAs "v1", hinfo, ?_⟩
  rw [result_resolve (show Text.NulFree "" by decide) henv hinfo]
  have hsummary : VersionInfo.summary ⟨"3.0[/x]", "SNAPSHOT", .release, "", "3.0[/x]-SNAPSHOT", none⟩ =
      String.ofList
        ("Building RELEASE (unknown): 3.0".toList ++ '[' :: '/' :: (['x'] ++ ']' :: "-SNAPSHOT".toList)) := by
    decide
  rw [hsummary]
  obtain ⟨hshown, -⟩ | ⟨-, cause, hlayout⟩ := Console.layout_cases (String.ofList
    ("Building RELEASE (unknown): 3.0".toList ++ '[' :: '/' :: (['x'] ++ ']' :: "-SNAPSHOT".toList)))
  · exact absurd hshown (Console.not_shown_of_closing (by decide) (by decide) (by decide) (by decide) _)
  · rw [hlayout]
    exact ⟨cause, rfl⟩

end Resolver
end VersionStamp
