/-
What `print-version` prints, from the words of its options to the octets on the
stream.

`printVersion_output` is its meaning for every list of options and every world.
The version is written as text for no terminal, so what is printed is the
version itself exactly as long as no sequence for a terminal stands in it:
`escape_in_suffix_is_not_printed` is a suffix that does.
-/
import VersionStamp.Proofs.GivenOptions
import VersionStamp.Proofs.PlainText
import VersionStamp.Proofs.Quiet
import VersionStamp.Proofs.ResolvingAloud

namespace VersionStamp.CommandLine

/-! ## Options before the environment, and the environment before the defaults -/

/-- The suffix given last, as it stands, even if it is empty. -/
def suffixFor (given : List (Setting ResolveOption)) (env : Environment) : String :=
  match lastValue? .suffix given, env.get? Environment.suffix with
  | some s, _ => s
  | none, some s => Text.trim s
  | none, none => "SNAPSHOT"

/-- The base version given last, unless it is empty. -/
def baseVersionFor (given : List (Setting ResolveOption)) (env : Environment) : String :=
  Settings.orElse ((lastValue? .baseVersion given).getD "")
    (Settings.orElse (Text.trim (env.text Environment.baseVersion)) "3.0.0")

/-- The flag is given, or the task that makes a build a release is among the tasks exactly. -/
def ReleaseRequested (given : List (Setting ResolveOption)) (env : Environment) : Prop :=
  (∃ value, (ResolveOption.release, value) ∈ given) ∨
    (ResolveOption.task, Settings.orElse (Text.trim (env.text Environment.releaseTask)) "release") ∈ given

theorem releaseRequested_iff {given : List (Setting ResolveOption)} {env : Environment} :
    ReleaseRequested given env ↔ valuesOf .release given ≠ [] ∨
      Settings.orElse (Text.trim (env.text Environment.releaseTask)) "release" ∈ valuesOf .task given := by
  have hflag : valuesOf .release given ≠ [] ↔ ∃ value, (ResolveOption.release, value) ∈ given := by
    simp only [← mem_valuesOf]
    exact ⟨List.exists_mem_of_ne_nil _, fun h => List.ne_nil_of_mem h.choose_spec⟩
  rw [ReleaseRequested, hflag, mem_valuesOf]

instance (given : List (Setting ResolveOption)) (env : Environment) : Decidable (ReleaseRequested given env) :=
  decidable_of_iff _ releaseRequested_iff.symm

/-- What stands in front of the suffix. -/
inductive Front (given : List (Setting ResolveOption)) (w : World) : String → Prop
  | release : ReleaseRequested given w.env → Front given w (baseVersionFor given w.env)
  | undescribed : (∀ text, ¬w.git.describeEnding.Wrote text) → Front given w (baseVersionFor given w.env)
  | described {text version : String} : ¬ReleaseRequested given w.env → w.git.describeEnding.Wrote text →
      Git.Compacts text.toList version.toList → Front given w version

theorem Front.unique {given : List (Setting ResolveOption)} {w : World} {version version' : String}
    (h : Front given w version) (h' : Front given w version') : version = version' := by
  cases h with
  | release hrelease =>
    cases h' with
    | release | undescribed => rfl
    | described hnot => exact absurd hrelease hnot
  | undescribed hnone =>
    cases h' with
    | release | undescribed => rfl
    | described _ hwrote => exact absurd hwrote (hnone _)
  | described hnot hwrote hcompact =>
    cases h' with
    | release hrelease => exact absurd hrelease hnot
    | undescribed hnone => exact absurd hwrote (hnone _)
    | described _ hwrote' hcompact' =>
      obtain rfl := hwrote.unique hwrote'
      rw [← String.toList_inj, hcompact.eq_dropMarker, hcompact'.eq_dropMarker]

section

variable {given : List (Setting ResolveOption)} {env : Environment} {s : Settings} {w : World}

theorem override_suffix (h : s.Reads env) :
    ((ResolveOptions.ofSettings given).override s).suffix = suffixFor given env := by
  rw [ResolveOptions.ofSettings_eq, ResolveOptions.override, suffixFor, h.suffix]
  dsimp only
  cases lastValue? ResolveOption.suffix given with
  | some t => rfl
  | none =>
    cases env.get? Environment.suffix with
    | some t => rfl
    | none => exact show Text.trim "SNAPSHOT" = "SNAPSHOT" by decide

theorem override_baseVersion (h : s.Reads env) :
    ((ResolveOptions.ofSettings given).override s).baseVersion = baseVersionFor given env := by
  rw [ResolveOptions.ofSettings_eq, ResolveOptions.override, baseVersionFor, h.baseVersion]

theorem wantsRelease_eq_true_iff (h : s.Reads env) :
    (ResolveOptions.ofSettings given).wantsRelease s = true ↔ ReleaseRequested given env := by
  rw [ResolveOptions.ofSettings_eq, ResolveOptions.wantsRelease, releaseRequested_iff, isReleaseRequested,
    h.releaseTask]
  simp

/-- What is resolved with these options, and how its version reads. -/
theorem front_of_compute {directory : String} {info : VersionInfo} (h : s.Reads w.env)
    (hinfo : (((Resolver.ofSettings directory ((ResolveOptions.ofSettings given).override s)).compute
      ((ResolveOptions.ofSettings given).wantsRelease s)).run w).result = .ok info) :
    ∃ version, Front given w version ∧ info.displayVersion = joinSuffix version (suffixFor given w.env) := by
  rw [← override_suffix h]
  obtain ⟨branch, -, hcase⟩ := Resolver.compute_eq_ok hinfo
  rcases hcase with ⟨hrelease, rfl⟩ | ⟨hsnapshot, described, hdescribed, rfl⟩
  · refine ⟨_, .release ((wantsRelease_eq_true_iff h).1 hrelease), ?_⟩
    rw [← override_baseVersion h]
    rfl
  rw [Resolver.answer_describeQuery rfl] at hdescribed
  cases described with
  | found text =>
    have hwrote := Git.answer_eq_found_iff.1 hdescribed
    have hnot : ¬ReleaseRequested given w.env := by
      rw [← wantsRelease_eq_true_iff h, hsnapshot]
      exact Bool.false_ne_true
    exact ⟨_, .described hnot hwrote (Git.compacts_compact text), rfl⟩
  | absent cause =>
    refine ⟨_, .undescribed fun text hwrote => ?_, ?_⟩
    · cases hdescribed.symm.trans (Git.answer_eq_found_iff.2 hwrote)
    · rw [← override_baseVersion h]
      rfl

end

/-! ## The command -/

theorem printVersion_of_resolveWith {o : ResolveOptions} {w : World} {s : Settings} {info : VersionInfo}
    (hs : Settings.ofEnvironment w.env = .ok s) (hinfo : ((o.resolveWith s .errors).run w).result = .ok info) :
    ((printVersion o).run w).result = .ok .success ∧
      ((printVersion o).run w).output = Console.plain info.displayVersion ++ "\n" := by
  have hquiet : ((o.resolveWith s .errors).run w).output = "" :=
    ResolveOptions.quiet_resolveWith (s := .output) (by decide) o s w
  rw [printVersion, ResolveOptions.resolving, Action.run_world_bind, hs]
  dsimp only
  rw [Action.run_bind_ok hinfo]
  refine ⟨rfl, ?_⟩
  rw [Report.andThen, hquiet, String.empty_append, Action.run_bind_ok rfl]
  exact String.append_empty

/-- What is resolved without a word is resolved aloud, if there is no markup in the summary. -/
theorem resolveWith_of_compute {o : ResolveOptions} {s : Settings} {w : World} {checkout : Location} {info : VersionInfo}
    (hcheckout : Checkout.locate w (o.startIn w) = .ok checkout) (hlog : Text.NulFree s.logDirectory)
    (henv : w.env.NulFree)
    (hinfo : (((Resolver.ofSettings checkout.text (o.override s)).compute (o.wantsRelease s)).run w).result = .ok info)
    (hbracket : '[' ∉ info.summary.toList) (stream : Stream) :
    ((o.resolveWith s stream).run w).result = .ok info := by
  obtain ⟨shown, hshown⟩ := Console.layout_eq_ok_iff.2 (Console.shown_of_no_bracket hbracket)
  rw [ResolveOptions.resolveWith_run, hcheckout]
  dsimp only
  rw [Resolver.result_resolve hlog henv hinfo, hshown]

/-- Either the command does not succeed and prints nothing, or it prints the version of a checkout. -/
theorem printVersion_cases (o : ResolveOptions) (w : World) :
    (((printVersion o).run w).result ≠ .ok .success ∧ ((printVersion o).run w).output = "") ∨
      ∃ s info, Settings.ofEnvironment w.env = .ok s ∧ ((o.resolveWith s .errors).run w).result = .ok info ∧
        ((printVersion o).run w).result = .ok .success ∧
        ((printVersion o).run w).output = Console.plain info.displayVersion ++ "\n" := by
  cases hs : Settings.ofEnvironment w.env with
  | error e =>
    rw [printVersion, ResolveOptions.resolving, Action.run_world_bind, hs]
    exact .inl ⟨complain_ne_success _ w, quiet_complain _ w⟩
  | ok s =>
    cases hinfo : ((o.resolveWith s .errors).run w).result with
    | error e =>
      have hquiet : ((o.resolveWith s .errors).run w).output = "" :=
        ResolveOptions.quiet_resolveWith (s := .output) (by decide) o s w
      rw [printVersion, ResolveOptions.resolving, Action.run_world_bind, hs]
      dsimp only
      rw [Action.run_bind_error hinfo]
      exact .inl ⟨nofun, hquiet⟩
    | ok info => exact .inr ⟨s, info, rfl, hinfo, printVersion_of_resolveWith hs hinfo⟩

theorem run_printVersion {given : List (Setting ResolveOption)} {words : List String}
    (hwords : Spells (ResolveOption.all false) given [] words) :
    run ("print-version" :: words) = .ok (printVersion (.ofSettings given)) := by
  rw [run, parse_printVersion hwords]
  rfl

/-- **What `print-version` prints**, whatever the options, the files, the environment and git: for a
command that succeeds the version and an end of line, as text for no terminal, and nothing for one
that does not. The version is printed as it is exactly if there is no sequence for a terminal in
it. -/
theorem printVersion_output {given : List (Setting ResolveOption)} {words : List String}
    (hwords : Spells (ResolveOption.all false) given [] words) :
    ∃ act, run ("print-version" :: words) = .ok act ∧ ∀ w : World,
      ((act.run w).result = .ok .success → ∃ version,
        Front given w version ∧
          (act.run w).output = Console.plain (joinSuffix version (suffixFor given w.env)) ++ "\n" ∧
          ((act.run w).output = joinSuffix version (suffixFor given w.env) ++ "\n" ↔
            ¬Console.HasSequence (joinSuffix version (suffixFor given w.env)))) ∧
      ((act.run w).result ≠ .ok .success → (act.run w).output = "") := by
  refine ⟨_, run_printVersion hwords, fun w => ?_⟩
  rcases printVersion_cases (.ofSettings given) w with ⟨hfail, hempty⟩ | ⟨s, info, hs, hinfo, hdone, hprinted⟩
  · exact ⟨fun h => absurd h hfail, fun _ => hempty⟩
  · obtain ⟨_, hcompute⟩ := ResolveOptions.compute_of_resolveWith hinfo
    obtain ⟨version, hfront, hversion⟩ := front_of_compute (Settings.reads_ofEnvironment hs) hcompute
    rw [hversion] at hprinted
    refine ⟨fun _ => ⟨version, hfront, hprinted, ?_⟩, fun h => absurd hdone h⟩
    rw [hprinted, String.append_left_inj, Console.plain_eq_self_iff]

/-! ## Two suffixes -/

open World

/-- In a described checkout a snapshot is resolved, as long as no markup is in the description. -/
theorem resolveWith_describedAs (text : String) (h : Text.trim (Text.unifyBreaks (text ++ "\n")) = text)
    (hne : text ≠ "") (hbracket : '[' ∉ (Git.compact text).toList) {given : List (Setting ResolveOption)}
    (hdirectory : lastValue? .directory given = none) (hsnapshot : ¬ReleaseRequested given []) (stream : Stream) :
    ∃ info,
      ((ResolveOptions.resolveWith (.ofSettings given) Settings.initial stream).run (describedAs text)).result =
          .ok info ∧
        info.displayVersion = joinSuffix (Git.compact text) (suffixFor given []) := by
  have hreads : Settings.initial.Reads [] :=
    Settings.reads_ofEnvironment Settings.ofEnvironment_nil
  have hwants : (ResolveOptions.ofSettings given).wantsRelease Settings.initial = false := by
    rwa [← Bool.not_eq_true, wantsRelease_eq_true_iff hreads]
  have hstart : (ResolveOptions.ofSettings given).startIn (describedAs text) = "/" := by
    rw [ResolveOptions.ofSettings_eq, ResolveOptions.startIn, hdirectory]
    rfl
  obtain ⟨checkout, hcheckout⟩ : ∃ checkout, Checkout.locate (describedAs text) "/" = .ok checkout := ⟨_, rfl⟩
  rw [ResolveOptions.resolveWith_run, hstart, hcheckout, hwants, ← override_suffix hreads]
  exact ⟨_, Resolver.resolve_describedAs h hne hbracket rfl rfl stream, rfl⟩

/-- And so it is printed. -/
theorem printVersion_describedAs (text : String) (h : Text.trim (Text.unifyBreaks (text ++ "\n")) = text)
    (hne : text ≠ "") (hbracket : '[' ∉ (Git.compact text).toList) {given : List (Setting ResolveOption)}
    (hdirectory : lastValue? .directory given = none) (hsnapshot : ¬ReleaseRequested given []) :
    ((printVersion (.ofSettings given)).run (describedAs text)).result = .ok .success ∧
      ((printVersion (.ofSettings given)).run (describedAs text)).output =
        Console.plain (joinSuffix (Git.compact text) (suffixFor given [])) ++ "\n" := by
  have henv : Settings.ofEnvironment (describedAs text).env = .ok Settings.initial :=
    Settings.ofEnvironment_nil
  obtain ⟨info, hinfo, hversion⟩ := resolveWith_describedAs text h hne hbracket hdirectory hsnapshot .errors
  rw [← hversion]
  exact printVersion_of_resolveWith henv hinfo

/-- What is printed in any world where git describes the checkout like that. -/
theorem printVersion_of_described (text : String) (h : Text.trim (Text.unifyBreaks (text ++ "\n")) = text)
    (hne : text ≠ "") {w : World} (hgit : w.git = (describedAs text).git) (henv : w.env.NulFree) {s : Settings}
    (hs : Settings.ofEnvironment w.env = .ok s) {o : ResolveOptions} {checkout : Location}
    (hcheckout : Checkout.locate w (o.startIn w) = .ok checkout) {info : VersionInfo}
    (hinfo : (if o.wantsRelease s then (Resolver.ofSettings checkout.text (o.override s)).releaseInfo none
      else (Resolver.ofSettings checkout.text (o.override s)).snapshotInfo none (.found (Git.compact text))) = info)
    (hbracket : '[' ∉ info.summary.toList) :
    ((printVersion o).run w).result = .ok .success ∧
      ((printVersion o).run w).output = Console.plain info.displayVersion ++ "\n" := by
  have hcompute : (((Resolver.ofSettings checkout.text (o.override s)).compute (o.wantsRelease s)).run w).result =
      .ok info := by
    rw [← hinfo, ← compute_describedAs h hne rfl, Resolver.compute_run, Resolver.compute_run, hgit]
    split
    · rfl
    · split
      · rfl
      · split <;> rfl
  exact printVersion_of_resolveWith hs
    (resolveWith_of_compute hcheckout (Settings.nulFree_logDirectory hs henv) henv hcompute hbracket .errors)

/-- A snapshot five commits behind its tag, with a suffix of its own. -/
theorem suffix_is_printed :
    Spells (ResolveOption.all false) [(.task, "build"), (.suffix, "RC")] [] ["-t", "build", "--suffix=RC"] ∧
      ∃ act, run ["print-version", "-t", "build", "--suffix=RC"] = .ok act ∧
        (act.run (describedAs "v1-5-gbeef")).result = .ok .success ∧
        (act.run (describedAs "v1-5-gbeef")).output = "v1-5-beef-RC\n" := by
  have hwords : Spells (ResolveOption.all false) [(.task, "build"), (.suffix, "RC")] []
      ["-t", "build", "--suffix=RC"] :=
    spells_of_sort (by simp [sort, shape, cutValue, cluster, withSettings, ResolveOption.all, ResolveOption.long?,
      ResolveOption.letter?, ResolveOption.takesValue])
  obtain ⟨act, hrun, hmean⟩ := printVersion_output hwords
  obtain rfl := Except.ok.inj (hrun.symm.trans (run_printVersion hwords))
  have hsnapshot : ¬ReleaseRequested [(.task, "build"), (.suffix, "RC")] [] := by decide
  obtain ⟨hdone, -⟩ := printVersion_describedAs "v1-5-gbeef" (by decide) (by decide) (by decide) rfl hsnapshot
  obtain ⟨version, hfront, hprinted, -⟩ := (hmean _).1 hdone
  have hfront' : Front [(.task, "build"), (.suffix, "RC")] (describedAs "v1-5-gbeef") "v1-5-beef" :=
    .described hsnapshot (describe_describedAs (by decide) (by decide)) (Git.compacts_compact "v1-5-gbeef")
  obtain rfl := hfront.unique hfront'
  have hplain : Console.plain (joinSuffix "v1-5-beef" "RC") ++ "\n" = "v1-5-beef-RC\n" := by decide
  exact ⟨hwords, _, hrun, hdone, hprinted.trans hplain⟩

/-- A suffix that switches colours off. What is printed ends with the hyphen in front of it. -/
theorem escape_in_suffix_is_not_printed :
    Spells (ResolveOption.all false) [(.suffix, "\x1B[0m")] [] ["--suffix", "\x1B[0m"] ∧
      ∃ act, run ["print-version", "--suffix", "\x1B[0m"] = .ok act ∧
        (act.run (describedAs "v1")).result = .ok .success ∧
        Front [(.suffix, "\x1B[0m")] (describedAs "v1") "v1" ∧
        suffixFor [(.suffix, "\x1B[0m")] (describedAs "v1").env = "\x1B[0m" ∧
        (act.run (describedAs "v1")).output = "v1-\n" := by
  have hwords : Spells (ResolveOption.all false) [(.suffix, "\x1B[0m")] [] ["--suffix", "\x1B[0m"] :=
    spells_of_sort (by simp [sort, shape, cutValue, withSettings, ResolveOption.all, ResolveOption.long?,
      ResolveOption.takesValue])
  have hsnapshot : ¬ReleaseRequested [(.suffix, "\x1B[0m")] [] := by decide
  obtain ⟨hdone, hprinted⟩ := printVersion_describedAs "v1" (by decide) (by decide) (by decide) rfl hsnapshot
  have hplain : Console.plain (joinSuffix (Git.compact "v1") "\x1B[0m") ++ "\n" = "v1-\n" := by decide
  refine ⟨hwords, _, run_printVersion hwords, hdone, ?_, rfl, hprinted.trans hplain⟩
  exact .described hsnapshot (describe_describedAs (by decide) (by decide)) (Git.compacts_compact "v1")

end VersionStamp.CommandLine
