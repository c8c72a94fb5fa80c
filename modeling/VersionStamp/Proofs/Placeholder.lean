/-
The placeholder for a revision.

Where git does not describe a checkout, `dirty` stands in the field of the revision, and
whoever reads the field cannot see where it came from. `placeholder_is_no_revision`: it is
still told apart from every description but the very same word. The compact form of another
text is another text (`compact_eq_dirty_iff`), and no branch and no revision together spell
the line that a build without a description says (`summary_eq_undescribed_iff`).
-/
import Mathlib.Data.List.Infix
import VersionStamp.Proofs.OwnVersion
import VersionStamp.Proofs.ResolverHistory

namespace VersionStamp

namespace Git

/-- A text without a hyphen was not changed by compaction. -/
theorem Compacts.eq_of_no_hyphen {cs ds : List Char} (h : Compacts cs ds) (hds : '-' ∉ ds) : ds = cs := by
  cases h with
  | unmarked => rfl
  | marked front => exact absurd (by simp) hds

theorem compact_eq_dirty_iff {described : String} : compact described = VersionInfo.dirty ↔ described = VersionInfo.dirty := by
  constructor
  · intro h
    have hcompacts := compacts_compact described
    rw [h] at hcompacts
    exact (String.toList_inj.1 (hcompacts.eq_of_no_hyphen (by decide))).symm
  · rintro rfl
    decide

/-- No description: nothing was found, or the word that stands for it. -/
def Answer.NoDescription (a : Answer) : Prop := (∃ cause, a = .absent cause) ∨ a = .found VersionInfo.dirty

theorem Answer.noDescription_iff {a : Answer} :
    a.NoDescription ↔ (a.map compact).value?.getD VersionInfo.dirty = VersionInfo.dirty := by
  cases a with
  | found text => simp [NoDescription, map, value?, compact_eq_dirty_iff]
  | absent cause => simp [NoDescription, map, value?]

end Git

namespace VersionInfo

/-- The line of a snapshot that git did not describe. -/
def undescribedSummary : String := "Building SNAPSHOT (no .git folder found)"

theorem summary_release {info : VersionInfo} (h : info.mode = .release) :
    info.summary = "Building RELEASE (" ++ info.shownBranch ++ "): " ++ info.displayVersion := by
  simp [summary, isRelease, h]

theorem summary_snapshot {info : VersionInfo} (h : info.mode = .snapshot) :
    info.summary = if info.revision = dirty then undescribedSummary
      else "Building SNAPSHOT (" ++ info.shownBranch ++ "): " ++ info.revision := by
  simp [summary, isRelease, h, undescribedSummary]

theorem summary_ne_of_release {info : VersionInfo} (h : info.mode = .release) : info.summary ≠ undescribedSummary := by
  rw [summary_release h, Ne, ← String.toList_inj]
  simp [undescribedSummary]

/-- Between the branch and the revision stands what the fixed line has nowhere. -/
theorem described_summary_ne (branch revision : String) :
    "Building SNAPSHOT (" ++ branch ++ "): " ++ revision ≠ undescribedSummary := by
  intro h
  have hinside : "): ".toList <:+: undescribedSummary.toList :=
    ⟨("Building SNAPSHOT (" ++ branch).toList, revision.toList, by rw [← h]; simp⟩
  exact absurd hinside (by decide)

theorem summary_eq_undescribed_iff {info : VersionInfo} :
    info.summary = undescribedSummary ↔ info.mode = .snapshot ∧ info.revision = dirty := by
  cases hmode : info.mode with
  | release => exact iff_of_false (summary_ne_of_release hmode) nofun
  | snapshot =>
    rw [summary_snapshot hmode]
    split
    next hdirty => exact iff_of_true rfl ⟨rfl, hdirty⟩
    next hdirty => exact iff_of_false (described_summary_ne _ _) fun h => hdirty h.2

end VersionInfo

theorem Own.describe_eq_packageVersion_iff {info : VersionInfo} :
    describe info = packageVersion ↔ info.revision = VersionInfo.dirty := by
  rw [describe]
  split
  next hdirty => exact iff_of_true rfl hdirty
  next hdirty =>
    refine iff_of_false ?_ hdirty
    cases info.branch with
    | none => simp [String.append_assoc]
    | some branch =>
      dsimp only
      split <;> simp [String.append_assoc]

namespace Resolver

variable {r : Resolver} {w : World} {info : VersionInfo}

/-- The placeholder is the revision of what git did not describe. -/
theorem dirty_iff_of_compute (h : ((r.compute false).run w).result = .ok info) :
    info.mode = .snapshot ∧ ∃ described, w.git.answer r.describeQuery = .ok described ∧
      (info.revision = VersionInfo.dirty ↔ described.NoDescription) := by
  obtain ⟨branch, -, ⟨hrelease, -⟩ | ⟨-, described, hdescribed, rfl⟩⟩ := compute_eq_ok h
  · cases hrelease
  · exact ⟨rfl, described, hdescribed, Git.Answer.noDescription_iff.symm⟩

/-- **The placeholder for a revision is taken for none.** Whoever answers for git, and whatever the branch: a
snapshot says that there is no checkout exactly if the query for its description came to nothing, or to the word
that is the placeholder; so never of a description that starts with a `v`, as those do that git is asked for. In
the same way, the program's own version is the bare one of its package exactly then. And no release says so. -/
theorem placeholder_is_no_revision :
    (∀ (r : Resolver) (w : World) (info : VersionInfo), ((r.compute false).run w).result = .ok info →
      ∃ described, w.git.answer r.describeQuery = .ok described ∧
        (info.summary = "Building SNAPSHOT (no .git folder found)" ↔
          (∃ cause, described = .absent cause) ∨ described = .found "dirty") ∧
        ∀ raw, described = .found raw → raw.toList.head? = some 'v' →
          info.summary ≠ "Building SNAPSHOT (no .git folder found)") ∧
    (∀ (w : World) (version : String), (Own.version.run w).result = .ok version →
      ∃ described, w.git.answer (Own.resolver w.installation).describeQuery = .ok described ∧
        (version = "1.0.0" ↔ (∃ cause, described = .absent cause) ∨ described = .found "dirty")) ∧
    ∀ info : VersionInfo, info.mode = .release → info.summary ≠ "Building SNAPSHOT (no .git folder found)" := by
  refine ⟨fun r w info h => ?_, fun w version h => ?_, fun _ => VersionInfo.summary_ne_of_release⟩
  · obtain ⟨hmode, described, hdescribed, hdirty⟩ := dirty_iff_of_compute h
    have hsummary : info.summary = VersionInfo.undescribedSummary ↔ described.NoDescription := by
      rw [VersionInfo.summary_eq_undescribed_iff, and_iff_right hmode, hdirty]
    refine ⟨described, hdescribed, hsummary, fun raw hraw hv hnone => ?_⟩
    obtain ⟨cause, hcause⟩ | hfound := hsummary.1 hnone
    · cases hraw.symm.trans hcause
    · obtain rfl := Git.Answer.found.inj (hraw.symm.trans hfound)
      exact absurd hv (by decide)
  · rw [Own.version_run] at h
    cases hcompute : (((Own.resolver w.installation).compute false).run w).result with
    | error fault =>
      rw [hcompute] at h
      cases h
    | ok info =>
      rw [hcompute] at h
      obtain rfl := Except.ok.inj h
      obtain ⟨-, described, hdescribed, hdirty⟩ := dirty_iff_of_compute hcompute
      exact ⟨described, hdescribed, Own.describe_eq_packageVersion_iff.trans hdirty⟩

/-! ## A branch that tells of no checkout -/

/-- A world where a stand-in was told a branch and a description. -/
def toldWorld (branch described : String) : World where
  git := told branch described
  now := .utc 0
  installation := "/"

theorem answer_toldWorld (branch described : String) :
    (toldWorld branch described).git.answer logging.describeQuery = .ok (.found described) := rfl

/-- Neither a branch with the words of the fixed line is taken for it, nor a description that has the placeholder
behind a marker, but the placeholder itself is; and a package whose checkout is described says so. -/
theorem unlucky_branch_is_a_branch :
    (∃ info, ((logging.compute false).run (toldWorld "no .git folder found" "v1")).result = .ok info ∧
      info.summary ≠ "Building SNAPSHOT (no .git folder found)") ∧
    (∃ info, ((logging.compute false).run (toldWorld "main" "-gdirty")).result = .ok info ∧
      info.summary ≠ "Building SNAPSHOT (no .git folder found)") ∧
    (∃ info, ((logging.compute false).run (toldWorld "main" "dirty")).result = .ok info ∧
      info.summary = "Building SNAPSHOT (no .git folder found)") ∧
    (∃ version, (Own.version.run (World.describedAs "v1-5-gbeef")).result = .ok version ∧ version ≠ "1.0.0") ∧
    VersionInfo.summary ⟨"3.0.0", "SNAPSHOT", .release, "dirty", "3.0.0-SNAPSHOT", none⟩ ≠
      "Building SNAPSHOT (no .git folder found)" := by
  obtain ⟨hsnapshot, hown, hrelease⟩ := placeholder_is_no_revision
  have hv1 : ((logging.compute false).run (toldWorld "no .git folder found" "v1")).result =
      .ok (logging.snapshotInfo (some "no .git folder found") (.found "v1")) := rfl
  have hgdirty : ((logging.compute false).run (toldWorld "main" "-gdirty")).result =
      .ok (logging.snapshotInfo (some "main") (.found "-dirty")) := rfl
  have hdirty : ((logging.compute false).run (toldWorld "main" "dirty")).result =
      .ok (logging.snapshotInfo (some "main") (.found "dirty")) := rfl
  refine ⟨⟨_, hv1, ?_⟩, ⟨_, hgdirty, ?_⟩, ⟨_, hdirty, ?_⟩, ⟨_, Own.version_describedAs, ?_⟩, hrelease _ rfl⟩
  · obtain ⟨described, hdescribed, -, hv⟩ := hsnapshot _ _ _ hv1
    obtain rfl := Except.ok.inj ((answer_toldWorld _ _).symm.trans hdescribed)
    exact hv "v1" rfl (by decide)
  · obtain ⟨described, hdescribed, hnone, -⟩ := hsnapshot _ _ _ hgdirty
    obtain rfl := Except.ok.inj ((answer_toldWorld _ _).symm.trans hdescribed)
    exact fun h => absurd (hnone.1 h) (by simp)
  · obtain ⟨described, hdescribed, hnone, -⟩ := hsnapshot _ _ _ hdirty
    obtain rfl := Except.ok.inj ((answer_toldWorld _ _).symm.trans hdescribed)
    exact hnone.2 (.inr rfl)
  · obtain ⟨described, hdescribed, hbare⟩ := hown _ _ Own.version_describedAs
    obtain rfl := Except.ok.inj ((World.answer_describedAs (by decide) (by decide) rfl).symm.trans hdescribed)
    exact fun h => absurd (hbare.1 h) (by simp)

end Resolver
end VersionStamp
