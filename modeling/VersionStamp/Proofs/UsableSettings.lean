/-
What the settings of an environment are, once it gives any.

`reads_ofEnvironment` says where each of the texts comes from, and `Reads.tidy`
that none of them has a blank at an end, and that the base version and the
release task are not empty.
-/
import VersionStamp.Proofs.Trimmed
import VersionStamp.Settings

namespace VersionStamp.Settings

open Environment

/-- The texts of the settings as they come out of an environment. -/
structure Reads (s : Settings) (env : Environment) : Prop where
  baseVersion : s.baseVersion = orElse (Text.trim (env.text Environment.baseVersion)) "3.0.0"
  suffix : s.suffix = Text.trim ((env.get? Environment.suffix).getD "SNAPSHOT")
  releaseTask : s.releaseTask = orElse (Text.trim (env.text Environment.releaseTask)) "release"
  logDirectory : s.logDirectory = Text.trim (env.text Environment.logDirectory)

theorem initial_baseVersion : initial.baseVersion = "3.0.0" := rfl
theorem initial_suffix : initial.suffix = "SNAPSHOT" := rfl
theorem initial_releaseTask : initial.releaseTask = "release" := rfl

theorem reads_ofEnvironment {env : Environment} {s : Settings} (h : ofEnvironment env = .ok s) : s.Reads env := by
  simp only [ofEnvironment, initial_baseVersion, initial_suffix, initial_releaseTask] at h
  split at h
  · cases h
  · obtain rfl := Except.ok.inj h
    constructor <;> dsimp only

/-- An environment that sets nothing gives the settings as they are to begin with. -/
theorem ofEnvironment_nil : ofEnvironment [] = .ok initial := rfl

/-- Texts without blanks at their ends, and no empty one where it would mean nothing. -/
structure Tidy (s : Settings) : Prop where
  baseVersion : Text.trim s.baseVersion = s.baseVersion
  baseVersion_ne : s.baseVersion ≠ ""
  suffix : Text.trim s.suffix = s.suffix
  releaseTask : Text.trim s.releaseTask = s.releaseTask
  releaseTask_ne : s.releaseTask ≠ ""
  logDirectory : Text.trim s.logDirectory = s.logDirectory

/-- A trimmed text, or a fallback where nothing is left of it. -/
theorem orElse_trim (s other : String) (htrim : Text.trim other = other) (hne : other ≠ "") :
    Text.trim (orElse (Text.trim s) other) = orElse (Text.trim s) other ∧ orElse (Text.trim s) other ≠ "" := by
  simp only [orElse]
  split
  · exact ⟨htrim, hne⟩
  next h => exact ⟨Text.trim_trim s, h⟩

theorem Reads.tidy {env : Environment} {s : Settings} (h : s.Reads env) : s.Tidy := by
  obtain ⟨hbase, hsuffix, htask, hlog⟩ := h
  obtain ⟨hbase₁, hbase₂⟩ := orElse_trim (env.text Environment.baseVersion) "3.0.0" (by decide) (by decide)
  obtain ⟨htask₁, htask₂⟩ := orElse_trim (env.text Environment.releaseTask) "release" (by decide) (by decide)
  exact
    { baseVersion := by rw [hbase, hbase₁]
      baseVersion_ne := by rw [hbase]; exact hbase₂
      suffix := by rw [hsuffix, Text.trim_trim]
      releaseTask := by rw [htask, htask₁]
      releaseTask_ne := by rw [htask]; exact htask₂
      logDirectory := by rw [hlog, Text.trim_trim] }

end VersionStamp.Settings
