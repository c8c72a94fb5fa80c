/-
Flags and tasks come down to one bit.

Whatever flags and tasks for a release are given, how often, in what order and where among
the other options: only whether they request a release counts
(`one_release_bit`). The flag and the task that makes a build a release do the same, and
any other task does nothing, be it as close to that one as it may.
-/
import VersionStamp.Proofs.Demands
import VersionStamp.Proofs.PrintVersion

namespace VersionStamp.CommandLine

/-- Neither the flag for a release nor a task. -/
def isBesideRelease (s : Setting ResolveOption) : Bool := s.1 ≠ .release ∧ s.1 ≠ .task

/-- What the words give besides flags and tasks: the other settings and the arguments, each in their order. -/
def besideRelease (name : String) (words : List String) :
    Except UsageError (List (Setting ResolveOption) × List String) :=
  (sorted name words).map fun (given, arguments) => (given.filter isBesideRelease, arguments)

/-- A release is requested among the settings that the words give. -/
def WordsRequestRelease (name : String) (words : List String) (env : Environment) : Prop :=
  ∃ given arguments, sorted name words = .ok (given, arguments) ∧ ReleaseRequested given env

theorem wordsRequestRelease_iff {name : String} {words arguments : List String} {given : List (Setting ResolveOption)}
    {env : Environment} (h : sorted name words = .ok (given, arguments)) :
    WordsRequestRelease name words env ↔ ReleaseRequested given env := by
  rw [WordsRequestRelease, h]
  simp

theorem besideRelease_of_sorted {name : String} {words arguments : List String} {given : List (Setting ResolveOption)}
    (h : sorted name words = .ok (given, arguments)) :
    besideRelease name words = .ok (given.filter isBesideRelease, arguments) := by
  rw [besideRelease, h]
  rfl

/-- Words that give the same besides are wrong in the same way, or have the same arguments and the same other
settings. -/
theorem sorted_of_beside {name : String} {words words' : List String}
    (h : besideRelease name words = besideRelease name words') :
    (∃ e, sorted name words = .error e ∧ sorted name words' = .error e) ∨
      ∃ given given' arguments, sorted name words = .ok (given, arguments) ∧ sorted name words' = .ok (given', arguments) ∧
        given.filter isBesideRelease = given'.filter isBesideRelease := by
  rw [besideRelease, besideRelease] at h
  rcases hsorted : sorted name words with e | ⟨given, arguments⟩ <;>
    rcases hsorted' : sorted name words' with e' | ⟨given', arguments'⟩ <;> rw [hsorted, hsorted'] at h
  · exact .inl ⟨e, rfl, congrArg Except.error (Except.error.inj h).symm⟩
  · cases h
  · cases h
  · obtain ⟨hfilter, harguments⟩ := Prod.ext_iff.1 (Except.ok.inj h)
    obtain rfl : arguments = arguments' := harguments
    exact .inr ⟨given, given', arguments, rfl, rfl, hfilter⟩

section

variable {given given' : List (Setting ResolveOption)}

theorem valuesOf_besideRelease {opt : ResolveOption} (h : opt ≠ .release) (h' : opt ≠ .task)
    (given : List (Setting ResolveOption)) : valuesOf opt (given.filter isBesideRelease) = valuesOf opt given := by
  induction given with
  | nil => rfl
  | cons s given ih =>
    rw [List.filter_cons, valuesOf_cons]
    split
    · rw [valuesOf_cons, ih]
    next hbeside =>
      have hother : s.1 ≠ opt := by
        rintro rfl
        simp [isBesideRelease, h, h'] at hbeside
      rw [ih, if_neg hother]

/-- The other options are the same, and both request a release or neither does: so the plan is the same. -/
theorem ResolveOptions.plan_of_beside (hbeside : given.filter isBesideRelease = given'.filter isBesideRelease) {w : World}
    (hbit : ReleaseRequested given w.env ↔ ReleaseRequested given' w.env) (now : Moment) :
    (ofSettings given).json = (ofSettings given').json ∧
      (ofSettings given).plan w = (ofSettings given').plan { w with now := now } := by
  have hvalues : ∀ opt, opt ≠ .release → opt ≠ .task → valuesOf opt given = valuesOf opt given' := by
    intro opt h h'
    rw [← valuesOf_besideRelease h h' given, hbeside, valuesOf_besideRelease h h']
  have hdirectory := hvalues .directory (by decide) (by decide)
  have hbase := hvalues .baseVersion (by decide) (by decide)
  have hsuffix := hvalues .suffix (by decide) (by decide)
  have hjson := hvalues .json (by decide) (by decide)
  refine ⟨by rw [ofSettings_eq, ofSettings_eq, hjson], ?_⟩
  have hstart : (ofSettings given).startIn w = (ofSettings given').startIn { w with now := now } := by
    rw [ofSettings_eq, ofSettings_eq, startIn, startIn]
    simp only [lastValue?, hdirectory]
  have hoverride : (ofSettings given).override = (ofSettings given').override := by
    funext s
    rw [ofSettings_eq, ofSettings_eq, override, override]
    simp only [lastValue?, hbase, hsuffix]
  rw [plan, plan, hstart, hoverride]
  cases hs : Settings.ofEnvironment w.env with
  | error e => rfl
  | ok s =>
    have hreads := Settings.reads_ofEnvironment hs
    have hwants : (ofSettings given).wantsRelease s = (ofSettings given').wantsRelease s := by
      rw [Bool.eq_iff_iff, wantsRelease_eq_true_iff hreads, wantsRelease_eq_true_iff hreads, hbit]
    simp only [Except.map, hwants]
    rfl

end

section

variable {front back : List (Setting ResolveOption)} {env : Environment}

theorem releaseRequested_flag (value : String) : ReleaseRequested (front ++ (.release, value) :: back) env :=
  .inl ⟨value, List.mem_append_right _ List.mem_cons_self⟩

theorem releaseRequested_task :
    ReleaseRequested (front ++ (.task, Settings.orElse (Text.trim (env.text Environment.releaseTask)) "release") :: back)
      env :=
  .inr (List.mem_append_right _ List.mem_cons_self)

/-- A task that is not the one that makes a build a release does not request it. -/
theorem releaseRequested_other_task {task : String}
    (h : task ≠ Settings.orElse (Text.trim (env.text Environment.releaseTask)) "release") :
    ReleaseRequested (front ++ (.task, task) :: back) env ↔ ReleaseRequested (front ++ back) env := by
  simp [ReleaseRequested, h.symm]

theorem filter_besideRelease_append {s : Setting ResolveOption} (h : isBesideRelease s = false) :
    (front ++ s :: back).filter isBesideRelease = (front ++ back).filter isBesideRelease := by
  rw [List.filter_append, List.filter_cons_of_neg (by simp [h]), List.filter_append]

end

section

variable {name : String} (hname : name ∈ resolvingNames) (w : World) (now : Moment) {words words' : List String}
include hname

/-- Whether a release is requested is all that counts of the flags and tasks. -/
theorem sameAnswer_of_beside (hbeside : besideRelease name words = besideRelease name words')
    (hbit : WordsRequestRelease name words w.env ↔ WordsRequestRelease name words' w.env) :
    SameAnswer (Report.SameBut w.now now) (reports (name :: words) w) (reports (name :: words') { w with now := now }) := by
  refine sameAnswer_of_matches hname (World.matches_of_env (w := w) rfl now) ?_
  rw [demand, demand]
  obtain ⟨e, h, h'⟩ | ⟨given, given', arguments, h, h', hfilter⟩ := sorted_of_beside hbeside
  · rw [h, h']
    rfl
  · rw [wordsRequestRelease_iff h, wordsRequestRelease_iff h'] at hbit
    obtain ⟨hjson, hplan⟩ := ResolveOptions.plan_of_beside hfilter hbit now
    simp only [h, h', Except.bind, hjson, hplan]

/-- **Release mode depends on the tasks through one bit.** In every world, and for every command that resolves a
version: invocations that differ only in their flags and tasks for a release, and that both request a release or both do
not, have the same answer but for the moment. In particular the flag can be replaced by the task that makes a build
a release, anywhere among the settings, and any other task can be left out. -/
theorem one_release_bit :
    (∀ words words', besideRelease name words = besideRelease name words' →
      (WordsRequestRelease name words w.env ↔ WordsRequestRelease name words' w.env) →
        SameAnswer (Report.SameBut w.now now) (reports (name :: words) w)
          (reports (name :: words') { w with now := now })) ∧
    (∀ front back arguments words words',
      sorted name words = .ok (front ++ (.release, "") :: back, arguments) →
      sorted name words' = .ok (front ++
        (.task, Settings.orElse (Text.trim (w.env.text Environment.releaseTask)) "release") :: back, arguments) →
        SameAnswer (Report.SameBut w.now now) (reports (name :: words) w)
          (reports (name :: words') { w with now := now })) ∧
    (∀ front back arguments task words words',
      task ≠ Settings.orElse (Text.trim (w.env.text Environment.releaseTask)) "release" →
      sorted name words = .ok (front ++ (.task, task) :: back, arguments) →
      sorted name words' = .ok (front ++ back, arguments) →
        SameAnswer (Report.SameBut w.now now) (reports (name :: words) w)
          (reports (name :: words') { w with now := now })) := by
  refine ⟨fun words words' => sameAnswer_of_beside hname w now, fun front back arguments words words' h h' => ?_,
    fun front back arguments task words words' hother h h' => ?_⟩
  · refine sameAnswer_of_beside hname w now ?_ ?_
    · rw [besideRelease_of_sorted h, besideRelease_of_sorted h', filter_besideRelease_append rfl,
        filter_besideRelease_append rfl]
    · rw [wordsRequestRelease_iff h, wordsRequestRelease_iff h']
      exact iff_of_true (releaseRequested_flag _) releaseRequested_task
  · refine sameAnswer_of_beside hname w now ?_ ?_
    · rw [besideRelease_of_sorted h, besideRelease_of_sorted h', filter_besideRelease_append rfl]
    · rw [wordsRequestRelease_iff h, wordsRequestRelease_iff h', releaseRequested_other_task hother]

end

/-! ## A release task of one's own -/

open World

/-- The described checkout, where deploying makes a build a release. -/
def deploying : World := { describedAs "v1-5-gbeef" with env := [(Environment.releaseTask, " deploy ")] }

theorem settings_deploying : Settings.ofEnvironment deploying.env = .ok { releaseTask := "deploy" } := rfl

theorem nulFree_env_deploying : deploying.env.NulFree :=
  Environment.nulFree_singleton (show Text.NulFree " deploy " by decide) _

/-- The flag and the task do the same there, and a task with a blank behind it does nothing. -/
theorem deploying_is_release :
    (∃ r r', reports ["print-version", "--suffix=RC", "--release"] deploying = .ok r ∧
      reports ["print-version", "-tdeploy", "--suffix=RC", "-t", "build"] { deploying with now := .utc 86400 } = .ok r' ∧
      r.result = .ok .success ∧ r.output = "3.0.0-RC\n" ∧ r'.result = .ok .success ∧ r'.output = "3.0.0-RC\n") ∧
    (∃ r r', reports ["print-version", "--task", "deploy "] deploying = .ok r ∧
      reports ["print-version"] { deploying with now := .utc 86400 } = .ok r' ∧
      r.result = .ok .success ∧ r.output = "v1-5-beef-SNAPSHOT\n" ∧
      r'.result = .ok .success ∧ r'.output = "v1-5-beef-SNAPSHOT\n") := by
  obtain ⟨hbit, -, hother⟩ := one_release_bit (show "print-version" ∈ resolvingNames by decide) deploying (.utc 86400)
  obtain ⟨checkout, hcheckout⟩ : ∃ checkout, Checkout.locate deploying "/" = .ok checkout := ⟨_, rfl⟩
  constructor
  · have hflag : sorted "print-version" ["--suffix=RC", "--release"] = .ok ([(.suffix, "RC"), (.release, "")], []) := by
      simp [sorted, sort, shape, cutValue, withSettings, ResolveOption.all, ResolveOption.long?,
        ResolveOption.takesValue]
    have htask : sorted "print-version" ["-tdeploy", "--suffix=RC", "-t", "build"] =
        .ok ([(.task, "deploy"), (.suffix, "RC"), (.task, "build")], []) := by
      simp [sorted, sort, shape, cutValue, cluster, withSettings, ResolveOption.all, ResolveOption.long?,
        ResolveOption.letter?, ResolveOption.takesValue]
    have hbeside : besideRelease "print-version" ["--suffix=RC", "--release"] =
        besideRelease "print-version" ["-tdeploy", "--suffix=RC", "-t", "build"] := by
      rw [besideRelease_of_sorted hflag, besideRelease_of_sorted htask]
      rfl
    have hrequest : WordsRequestRelease "print-version" ["--suffix=RC", "--release"] deploying.env ↔
        WordsRequestRelease "print-version" ["-tdeploy", "--suffix=RC", "-t", "build"] deploying.env := by
      rw [wordsRequestRelease_iff hflag, wordsRequestRelease_iff htask]
      exact iff_of_true (by decide) (by decide)
    obtain ⟨r', hr', hsame⟩ := (hbit _ _ hbeside hrequest).ok (reports_printVersion hflag deploying)
    obtain ⟨hdone, hprinted⟩ := printVersion_of_described "v1-5-gbeef" (by decide) (by decide) (w := deploying) rfl
      nulFree_env_deploying settings_deploying (o := .ofSettings [(.suffix, "RC"), (.release, "")]) hcheckout
      (show _ = (⟨"3.0.0", "RC", .release, "", "3.0.0-RC", none⟩ : VersionInfo) from rfl) (by decide)
    have hplain : Console.plain "3.0.0-RC" ++ "\n" = "3.0.0-RC\n" := by decide
    exact ⟨_, r', reports_printVersion hflag deploying, hr', hdone, hprinted.trans hplain,
      hsame.result.symm.trans hdone, hsame.output.symm.trans (hprinted.trans hplain)⟩
  · have htask : sorted "print-version" ["--task", "deploy "] = .ok ([] ++ (.task, "deploy ") :: [], []) := by
      simp [sorted, sort, shape, cutValue, withSettings, ResolveOption.all, ResolveOption.long?,
        ResolveOption.takesValue]
    have hnot : "deploy " ≠ Settings.orElse (Text.trim (deploying.env.text Environment.releaseTask)) "release" := by decide
    obtain ⟨r', hr', hsame⟩ := (hother [] [] [] "deploy " ["--task", "deploy "] [] hnot htask rfl).ok
      (reports_printVersion htask deploying)
    obtain ⟨hdone, hprinted⟩ := printVersion_of_described "v1-5-gbeef" (by decide) (by decide) (w := deploying) rfl
      nulFree_env_deploying settings_deploying (o := .ofSettings [(.task, "deploy ")]) hcheckout
      (show _ = (⟨"3.0.0", "SNAPSHOT", .snapshot, "v1-5-beef", "v1-5-beef-SNAPSHOT", none⟩ : VersionInfo) from rfl)
      (by decide)
    have hplain : Console.plain "v1-5-beef-SNAPSHOT" ++ "\n" = "v1-5-beef-SNAPSHOT\n" := by decide
    exact ⟨_, r', reports_printVersion htask deploying, hr', hdone, hprinted.trans hplain,
      hsame.result.symm.trans hdone, hsame.output.symm.trans (hprinted.trans hplain)⟩

end VersionStamp.CommandLine
