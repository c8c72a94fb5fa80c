/-
Settings that cannot be used.

Where the environment gives no settings, a command that resolves a version comes
to a complaint about them and to nothing else, whatever its options
(`Command.run_perform_of_unusable`). So `unusable_settings_do_nothing`: git is not
asked, no file changes, and nothing goes to standard output. The complaint quotes
the text of the timeout as markup, and a text that the console refuses ends the
command by a fault instead.
-/
import VersionStamp.Proofs.Demands
import VersionStamp.Proofs.OneLogFile
import VersionStamp.Proofs.ShowFile

namespace VersionStamp.CommandLine

open VersionStamp.Action

/-- A complaint ends a command in failure if it can be shown, and by a fault over its markup otherwise. -/
theorem result_complain_cases (message : String) (w : World) :
    (Console.Shown ("ERROR: " ++ message) ∧ ((complain message).run w).result = .ok .failure) ∨
      (¬Console.Shown ("ERROR: " ++ message) ∧
        ∃ cause, ((complain message).run w).result = .error (.console (.markup cause))) := by
  obtain ⟨hshown, shown, hlayout⟩ | ⟨hshown, cause, hlayout⟩ := Console.layout_cases ("ERROR: " ++ message)
  · exact .inl ⟨hshown, by rw [run_complain hlayout]⟩
  · exact .inr ⟨hshown, cause, by rw [run_complain_error hlayout]⟩

/-- The settings are looked at before anything else is. -/
theorem Command.run_perform_of_unusable {c : Command} {o : ResolveOptions} (ho : c.resolveOptions? = some o)
    {w : World} {e : ConfigError} (hsettings : Settings.ofEnvironment w.env = .error e) :
    c.perform.run w = (complain e.message).run w := by
  have hresolving : ∀ (o : ResolveOptions) (stream : Stream) (next : VersionInfo → Action ExitStatus),
      (o.resolving stream next).run w = (complain e.message).run w := by
    intro o stream next
    rw [ResolveOptions.resolving, run_world_bind, hsettings]
  cases c with
  | printVersion o => rw [Command.perform, CommandLine.printVersion, hresolving]
  | resolve o => rw [Command.perform, CommandLine.resolve, hresolving]
  | stamp output o => rw [Command.perform, CommandLine.stamp, hresolving]
  | show_ path => cases ho

/-- **Without usable settings nothing is done.** Let words ask for a command that resolves a version, with whatever
options, in a world whose environment gives no settings. The command does not succeed, it prints nothing on
standard output and asks git nothing, and all files and directories are as they were. It fails if the console can
show the complaint, and ends by a fault over the markup in it otherwise. -/
theorem unusable_settings_do_nothing {words : List String} {c : Command} {o : ResolveOptions}
    (hwords : Invocation.parse words = .ok (.command c)) (ho : c.resolveOptions? = some o) {w : World}
    {e : ConfigError} (hsettings : Settings.ofEnvironment w.env = .error e) :
    ∃ r, reports words w = .ok r ∧ r.result ≠ .ok .success ∧ r.output = "" ∧ r.queries = [] ∧ r.files = w.files ∧
      (r.result = .ok .failure ↔ Console.Shown ("ERROR: " ++ e.message)) ∧
      (¬Console.Shown ("ERROR: " ++ e.message) → ∃ cause, r.result = .error (.console (.markup cause))) := by
  have hreport : reports words w = .ok ((complain e.message).run w) := by
    rw [reports, run, hwords, ← Command.run_perform_of_unusable ho hsettings]
    rfl
  obtain ⟨hfiles, hqueries⟩ := onlyPrints_complain e.message w
  refine ⟨_, hreport, complain_ne_success e.message w, quiet_complain e.message w, hqueries, hfiles, ?_⟩
  obtain ⟨hshown, hresult⟩ | ⟨hshown, cause, hresult⟩ := result_complain_cases e.message w
  · exact ⟨iff_of_true hresult hshown, fun h => absurd hshown h⟩
  · exact ⟨iff_of_false (by simp [hresult]) hshown, fun _ => ⟨cause, hresult⟩⟩

/-- A world that logs to `logs`, with a timeout that closes a tag which nobody opened. -/
def impatient : World :=
  { World.loggingTo "logs" with
    env := [(Environment.logDirectory, "logs"), (Environment.gitTimeout, " 5s[/b] ")] }

/-- The complaint over this timeout cannot even be shown. All the same nothing is stamped and nothing is logged. -/
theorem unreadable_timeout_stamps_nothing :
    Invocation.parse ["--", "stamp", "--release", "out", "-C", "/"] =
        .ok (.command (.stamp "out" { release := true, directory := some "/" })) ∧
      Settings.ofEnvironment impatient.env = .error (.timeoutNotNumber "5s[/b]") ∧
      ∃ r, reports ["--", "stamp", "--release", "out", "-C", "/"] impatient = .ok r ∧
        (∃ cause, r.result = .error (.console (.markup cause))) ∧ r.output = "" ∧ r.queries = [] ∧
        r.files = impatient.files := by
  have hwords : Invocation.parse ["--", "stamp", "--release", "out", "-C", "/"] =
      .ok (.command (.stamp "out" { release := true, directory := some "/" })) := by decide +kernel
  have hsettings : Settings.ofEnvironment impatient.env = .error (.timeoutNotNumber "5s[/b]") := by decide +kernel
  obtain ⟨r, hreport, -, houtput, hqueries, hfiles, -, hfault⟩ := unusable_settings_do_nothing hwords rfl hsettings
  have hmessage : "ERROR: " ++ ConfigError.message (.timeoutNotNumber "5s[/b]") =
      String.ofList ("ERROR: BUILDSTAMP_GIT_TIMEOUT must be a number, got '5s".toList ++
        '[' :: '/' :: (['b'] ++ ']' :: "'".toList)) := by decide
  have hshown : ¬Console.Shown ("ERROR: " ++ ConfigError.message (.timeoutNotNumber "5s[/b]")) := by
    rw [hmessage]
    exact Console.not_shown_of_closing (by decide) (by decide) (by decide) (by decide) _
  exact ⟨hwords, hsettings, r, hreport, hfault hshown, houtput, hqueries, hfiles⟩

end VersionStamp.CommandLine
