/-
One log file for a run.

`logs_to_one_file`: a command that resolves a version and succeeds adds its lines
to the log file of the settings, and changes nothing else but its output and the
directories made. That is so for an environment whose log directory has no blanks
at its ends: the settings trim it, and logging without them does not, so with
blanks the lines go astray (`blank_log_directory_is_made`).
-/
import VersionStamp.Proofs.LogTrail
import VersionStamp.Proofs.PrintVersion
import VersionStamp.Proofs.ResolvingRuns

namespace VersionStamp

/-- Where a line goes that is logged with the settings at hand, or without them. -/
theorem Settings.Reads.directoryFor_eq {s : Settings} {env : Environment} (h : s.Reads env)
    (htrim : Text.trim (env.text Environment.logDirectory) = env.text Environment.logDirectory) {given : String}
    (hgiven : given = s.logDirectory ∨ given = "") : Log.directoryFor env given = s.logDirectory := by
  rw [Log.directoryFor]
  split
  · rw [h.logDirectory, htrim]
  next hne => exact hgiven.resolve_right hne

namespace CommandLine

namespace Command

/-- The options of a command that resolves a version. -/
def resolveOptions? : Command → Option ResolveOptions
  | .printVersion o | .resolve o | .stamp _ o => some o
  | .show_ _ => none

/-- The path that a command writes to. -/
def output? : Command → Option String
  | .stamp output _ => some output
  | .printVersion _ | .resolve _ | .show_ _ => none

/-- What a command logs once it has a version: the summary, and then what it wrote. -/
def messages (here : Place) (info : VersionInfo) (c : Command) : List String :=
  info.summary :: (c.output?.map fun output => "Wrote " ++ (Location.ofPath here output).text).toList

end Command

variable {w : World} {s : Settings} {o : ResolveOptions} {stream : Stream} {info : VersionInfo}

/-- A version that is resolved aloud leaves its summary behind, or nothing. -/
theorem trail_resolveWith (hs : Settings.ofEnvironment w.env = .ok s)
    (htrim : Text.trim (w.env.text Environment.logDirectory) = w.env.text Environment.logDirectory)
    (hinfo : ((o.resolveWith s stream).run w).result = .ok info) (output : Option Place)
    (houtput : ∀ q, output = some q → q.getLast? ≠ some Log.fileName) :
    ∃ lines, lines.Sublist [info.summary] ∧
      Log.Trail w.here s.logDirectory output w.files ((o.resolveWith s stream).run w).files lines := by
  have hlogs := (Settings.reads_ofEnvironment hs).directoryFor_eq htrim (.inl rfl)
  obtain ⟨lines, hlines, htrail⟩ := Log.trail_record s.logDirectory info.summary
    (.refl w.here s.logDirectory output w.files) hlogs houtput
  rw [ResolveOptions.resolveWith_leaves hinfo]
  exact ⟨lines, hlines, htrail⟩

/-- The output is stored, and that is logged without the settings at hand: there may be one line more,
and the output is what was stored. -/
theorem trail_store_record {output path : String} (message : String) {logs : String} {before : FileTree} {lines : List String}
    (hhere : w.here.Named) (hname : ¬Log.IsNameOf w.here output) (hlogs : Log.directoryFor w.env "" = logs)
    (hstore : (Stamp.store info output w).2 = .ok path)
    (h : Log.Trail w.here logs (some (Location.ofPath w.here output).names) before w.files lines) :
    ∃ more, more.Sublist [message] ∧
      Log.Trail w.here logs (some (Location.ofPath w.here output).names) before
        (Log.record "" message { w with files := (Stamp.store info output w).1 }).1 (lines ++ more) ∧
      (Log.record "" message { w with files := (Stamp.store info output w).1 }).1.get?
        (Location.ofPath w.here output).names = some (.file (Properties.render info w.now).toUTF8) := by
  have hlast := Log.getLast?_names_ne hhere hstore hname
  have houtput : ∀ q, some (Location.ofPath w.here output).names = some q → q.getLast? ≠ some Log.fileName := by
    rintro q ⟨⟩
    exact hlast
  have hstored := Log.trail_store hhere hstore hname h
  obtain ⟨more, hmore, htrail⟩ := Log.trail_record "" message
    (w := { w with files := (Stamp.store info output w).1 }) hstored hlogs houtput
  -- From the store on, the output is a file like any other.
  obtain ⟨_, -, hsince⟩ := Log.trail_record "" message
    (w := { w with files := (Stamp.store info output w).1 }) (.refl w.here logs none _) hlogs nofun
  exact ⟨more, hmore, htrail, hsince.get?_eq (Log.get?_store hhere hstore) hlast nofun⟩

/-- All that a `stamp` leaves behind that succeeds. -/
theorem trail_stamp (hs : Settings.ofEnvironment w.env = .ok s)
    (htrim : Text.trim (w.env.text Environment.logDirectory) = w.env.text Environment.logDirectory)
    (hhere : w.here.Named) {output : String} (hname : ¬Log.IsNameOf w.here output)
    (hdone : ((stamp output o).run w).result = .ok .success) :
    ∃ info lines,
      (∃ directory, (((Resolver.ofSettings directory (o.override s)).compute (o.wantsRelease s)).run w).result =
        .ok info) ∧
      lines.Sublist [info.summary, "Wrote " ++ (Location.ofPath w.here output).text] ∧
      Log.Trail w.here s.logDirectory (some (Location.ofPath w.here output).names) w.files
        ((stamp output o).run w).files lines ∧
      ((stamp output o).run w).files.get? (Location.ofPath w.here output).names =
        some (.file (Properties.render info w.now).toUTF8) := by
  obtain ⟨s', info, path, hs', hinfo, hstore, hfiles, -⟩ := stamp_leaves hdone
  obtain rfl := Except.ok.inj (hs.symm.trans hs')
  obtain ⟨rfl, -⟩ := Stamp.store_eq_ok hstore
  have houtput : ∀ q, some (Location.ofPath w.here output).names = some q → q.getLast? ≠ some Log.fileName := by
    rintro q ⟨⟩
    exact Log.getLast?_names_ne (w := w.after ((o.resolveWith s .output).run w)) hhere hstore hname
  obtain ⟨lines, hlines, hresolved⟩ := trail_resolveWith hs htrim hinfo _ houtput
  have hlogs := (Settings.reads_ofEnvironment hs).directoryFor_eq htrim (.inr rfl)
  obtain ⟨more, hmore, htrail, hstamped⟩ := trail_store_record (w := w.after ((o.resolveWith s .output).run w))
    ("Wrote " ++ (Location.ofPath w.here output).text) hhere hname hlogs hstore hresolved
  refine ⟨info, lines ++ more, ResolveOptions.compute_of_resolveWith hinfo, hlines.append hmore, ?_, ?_⟩
  · exact hfiles ▸ htrail
  · exact hfiles ▸ hstamped

/-- **All that a run writes goes to one log file**, but for its output: when `print-version`, `resolve` or
`stamp` succeeds, for a log directory without blanks at its ends, each of its messages that reaches a
file is a line of the log file in the directory of the settings; without such a directory there are
none, and nothing is new but the output and directories above it. The output holds the version that was
resolved. Of the working directory it is asked only that its place is made of names, which is so for
every directory there is. -/
theorem logs_to_one_file (hs : Settings.ofEnvironment w.env = .ok s)
    (htrim : Text.trim (w.env.text Environment.logDirectory) = w.env.text Environment.logDirectory)
    (hhere : w.here.Named) {c : Command} (ho : c.resolveOptions? = some o)
    (hdone : (c.perform.run w).result = .ok .success)
    (hname : ∀ output, c.output? = some output → ¬Log.IsNameOf w.here output) :
    ∃ info lines,
      (∃ directory, (((Resolver.ofSettings directory (o.override s)).compute (o.wantsRelease s)).run w).result =
        .ok info) ∧
      lines.Sublist (c.messages w.here info) ∧
      Log.Trail w.here s.logDirectory (c.output?.map fun output => (Location.ofPath w.here output).names) w.files
        (c.perform.run w).files lines ∧
      ∀ output, c.output? = some output → (c.perform.run w).files.get? (Location.ofPath w.here output).names =
        some (.file (Properties.render info w.now).toUTF8) := by
  cases c with
  | show_ path => cases ho
  | printVersion o' =>
    obtain rfl := Option.some.inj ho
    obtain ⟨s', info, hs', hinfo, hfiles, -⟩ := printVersion_leaves hdone
    obtain rfl := Except.ok.inj (hs.symm.trans hs')
    obtain ⟨lines, hlines, htrail⟩ := trail_resolveWith hs htrim hinfo none nofun
    rw [← hfiles] at htrail
    exact ⟨info, lines, ResolveOptions.compute_of_resolveWith hinfo, hlines, htrail, nofun⟩
  | resolve o' =>
    obtain rfl := Option.some.inj ho
    obtain ⟨s', info, stream, hs', hinfo, hfiles, -⟩ := resolve_leaves hdone
    obtain rfl := Except.ok.inj (hs.symm.trans hs')
    obtain ⟨lines, hlines, htrail⟩ := trail_resolveWith hs htrim hinfo none nofun
    rw [← hfiles] at htrail
    exact ⟨info, lines, ResolveOptions.compute_of_resolveWith hinfo, hlines, htrail, nofun⟩
  | stamp output o' =>
    obtain rfl := Option.some.inj ho
    obtain ⟨info, lines, hinfo, hlines, htrail, hstamped⟩ := trail_stamp hs htrim hhere (hname output rfl) hdone
    refine ⟨info, lines, hinfo, hlines, htrail, ?_⟩
    rintro _ ⟨⟩
    exact hstamped

end CommandLine

/-! ## Two log directories -/

namespace World

/-- A world without files and without git, where the environment names a log directory. -/
def loggingTo (directory : String) : World where
  env := [(Environment.logDirectory, directory)]
  now := .utc 0
  installation := "/"

theorem settings_loggingTo (directory : String) :
    Settings.ofEnvironment (loggingTo directory).env =
      .ok { Settings.initial with logDirectory := Text.trim directory } := by
  have hbase : (loggingTo directory).env.text Environment.baseVersion = "" := rfl
  have hsuffix : (loggingTo directory).env.get? Environment.suffix = none := rfl
  have htask : (loggingTo directory).env.text Environment.releaseTask = "" := rfl
  have htimeout : (loggingTo directory).env.text Environment.gitTimeout = "" := rfl
  have hlog : (loggingTo directory).env.text Environment.logDirectory = directory := rfl
  have hempty : Text.trim "" = "" := by decide
  have hsnapshot : Text.trim "SNAPSHOT" = "SNAPSHOT" := by decide
  simp [Settings.ofEnvironment, hbase, hsuffix, htask, htimeout, hlog, hempty, hsnapshot, Settings.initial,
    Settings.orElse]

theorem nulFree_env_loggingTo {directory : String} (h : Text.NulFree directory) : (loggingTo directory).env.NulFree :=
  Environment.nulFree_singleton h _

theorem compute_loggingTo (directory : String) {r : Resolver} (hr : r.runner = .process) :
    ((r.compute false).run (loggingTo directory)).result = .ok (r.snapshotInfo none (.absent .noExecutable)) := by
  have hanswer : ∀ arguments, (loggingTo directory).git.answer (r.query arguments) = .ok (.absent .noExecutable) := by
    intro arguments
    simp only [Git.answer, Resolver.query, hr]
    rfl
  rw [Resolver.compute_run, Resolver.branchQuery, Resolver.describeQuery, hanswer, hanswer]
  rfl

end World

namespace CommandLine

open World

/-- What is resolved without git. -/
def undescribed : VersionInfo where
  baseVersion := "3.0.0"
  suffix := "SNAPSHOT"
  mode := .snapshot
  revision := "dirty"
  displayVersion := "3.0.0-SNAPSHOT"

theorem resolveWith_loggingTo {directory logs : String} (hdirectory : Text.NulFree directory)
    (hlogs : Text.NulFree logs) (stream : Stream) :
    ((ResolveOptions.resolveWith {} { Settings.initial with logDirectory := logs } stream).run
      (loggingTo directory)).result = .ok undescribed := by
  obtain ⟨checkout, hcheckout⟩ : ∃ checkout, Checkout.locate (loggingTo directory) "/" = .ok checkout := ⟨_, rfl⟩
  have hcompute : (((Resolver.ofSettings checkout.text
      (ResolveOptions.override {} { Settings.initial with logDirectory := logs })).compute false).run
        (loggingTo directory)).result = .ok undescribed := compute_loggingTo directory rfl
  exact resolveWith_of_compute hcheckout hlogs (nulFree_env_loggingTo hdirectory) hcompute (by decide) stream

/-- Without git there is a version all the same, and the summary is logged where the settings say. -/
theorem printVersion_loggingTo {directory logs : String} (hdirectory : Text.NulFree directory)
    (hlogs : Text.NulFree logs) (htrim : Text.trim directory = logs) :
    ((printVersion {}).run (loggingTo directory)).result = .ok .success ∧
      ((printVersion {}).run (loggingTo directory)).files =
        (Log.record logs undescribed.summary (loggingTo directory)).1 := by
  have hs := settings_loggingTo directory
  rw [htrim] at hs
  have hinfo := resolveWith_loggingTo hdirectory hlogs .errors
  obtain ⟨hdone, -⟩ := printVersion_of_resolveWith hs hinfo
  obtain ⟨s', info, hs', hinfo', hfiles, -⟩ := printVersion_leaves hdone
  obtain rfl := Except.ok.inj (hs.symm.trans hs')
  obtain rfl := Except.ok.inj (hinfo.symm.trans hinfo')
  rw [hfiles, ResolveOptions.resolveWith_leaves hinfo]
  exact ⟨hdone, rfl⟩

/-- The summary of a build without git is logged, and nothing else. -/
theorem summary_is_logged :
    ((Command.printVersion {}).perform.run (loggingTo "logs")).result = .ok .success ∧
      Log.Trail [] "logs" none (loggingTo "logs").files ((Command.printVersion {}).perform.run (loggingTo "logs")).files
        ["Building SNAPSHOT (no .git folder found)"] := by
  have htrim : Text.trim "logs" = "logs" := by decide
  have hs := settings_loggingTo "logs"
  rw [htrim] at hs
  obtain ⟨hdone, hfiles⟩ := printVersion_loggingTo (show Text.NulFree "logs" by decide) (by decide) htrim
  obtain ⟨info, lines, ⟨directory, hinfo⟩, hlines, htrail, -⟩ := logs_to_one_file (c := .printVersion {})
    (w := loggingTo "logs") hs htrim (show Place.Named [] by decide) rfl hdone nofun
  obtain rfl := Except.ok.inj (hinfo.symm.trans (compute_loggingTo "logs" rfl))
  refine ⟨hdone, ?_⟩
  have hmade : (loggingTo "logs").files.createDirectories (loggingTo "logs").here "logs".toList =
      ((loggingTo "logs").files.put ["logs"] .directory, .ok ()) := by
    rw [FileTree.createDirectories]
    rfl
  have hdirectory : Log.directoryFor (loggingTo "logs").env "logs" = "logs" := rfl
  have hlogged : ((printVersion {}).run (loggingTo "logs")).files.get? ["logs", "buildstamp.log"] =
      some (.file "Building SNAPSHOT (no .git folder found)\n".toUTF8) := by
    rw [hfiles]
    simp only [Log.record, Log.prepare, hdirectory]
    rw [if_neg (by decide), hmade]
    rfl
  rcases List.sublist_singleton.1 hlines with rfl | rfl
  · rcases htrail.others ["logs", "buildstamp.log"] with hsame | ⟨hlines, -⟩ | hout | ⟨-, hmade, -⟩
    · cases hlogged.symm.trans hsame
    · exact absurd rfl hlines
    · cases hout
    · cases hlogged.symm.trans hmade
  · exact htrail

/-- A blank is no log directory for the settings. But logging without them makes a directory of that name,
and logs the summary there. -/
theorem blank_log_directory_is_made :
    Settings.ofEnvironment (loggingTo " ").env = .ok Settings.initial ∧ Settings.initial.logDirectory = "" ∧
      (loggingTo " ").files.get? [" ", "buildstamp.log"] = none ∧
      ((Command.printVersion {}).perform.run (loggingTo " ")).result = .ok .success ∧
      ((Command.printVersion {}).perform.run (loggingTo " ")).files.get? [" ", "buildstamp.log"] =
        some (.file "Building SNAPSHOT (no .git folder found)\n".toUTF8) := by
  have htrim : Text.trim " " = "" := by decide
  have hs := settings_loggingTo " "
  rw [htrim] at hs
  obtain ⟨hdone, hfiles⟩ := printVersion_loggingTo (show Text.NulFree " " by decide) (by decide) htrim
  refine ⟨hs, rfl, rfl, hdone, ?_⟩
  have hmade : (loggingTo " ").files.createDirectories (loggingTo " ").here " ".toList =
      ((loggingTo " ").files.put [" "] .directory, .ok ()) := by
    rw [FileTree.createDirectories]
    rfl
  have hdirectory : Log.directoryFor (loggingTo " ").env "" = " " := rfl
  show ((printVersion {}).run (loggingTo " ")).files.get? [" ", "buildstamp.log"] = _
  rw [hfiles]
  simp only [Log.record, Log.prepare, hdirectory]
  rw [if_neg (by decide), hmade]
  rfl

end CommandLine
end VersionStamp
