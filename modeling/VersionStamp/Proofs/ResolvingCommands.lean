/-
The commands that resolve a version agree on it.

`resolving_commands_agree`: with the same options in the same world, where
`print-version` succeeds `resolve --json` does, and a `stamp` that succeeds writes
the version that the JSON shows; all three ask git the same. What is printed is the
version less its sequences for a terminal, which the JSON and the stamp keep:
`escape_in_suffix_is_resolved`.
-/
import VersionStamp.Proofs.LogTrail
import VersionStamp.Proofs.PrintVersion
import VersionStamp.Proofs.ResolvingRuns
import VersionStamp.Proofs.StampReading

namespace VersionStamp

/-! ## The same on another stream -/

namespace Action

variable {α β : Type}

/-- Two actions that come to the same, in whatever world, but for what they print. -/
def Alike (x y : Action α) : Prop :=
  ∀ w, (x.run w).result = (y.run w).result ∧ (x.run w).files = (y.run w).files ∧ (x.run w).queries = (y.run w).queries

theorem Alike.refl (x : Action α) : Alike x x := fun _ => ⟨rfl, rfl, rfl⟩

theorem Alike.bind {x y : Action α} {f g : α → Action β} (hx : Alike x y) (hf : ∀ a, Alike (f a) (g a)) :
    Alike (x >>= f) (y >>= g) := by
  intro w
  obtain ⟨hresult, hfiles, hqueries⟩ := hx w
  cases h : (x.run w).result with
  | error e =>
    rw [run_bind_error h, run_bind_error (hresult ▸ h)]
    exact ⟨rfl, hfiles, hqueries⟩
  | ok a =>
    have hafter : w.after (x.run w) = w.after (y.run w) := by rw [World.after, World.after, hfiles]
    obtain ⟨hresult', hfiles', hqueries'⟩ := hf a (w.after (y.run w))
    rw [run_bind_ok h, run_bind_ok (hresult ▸ h), hafter]
    refine ⟨hresult', hfiles', ?_⟩
    simp only [Report.andThen, hqueries, hqueries']

theorem alike_print (s t : Stream) (text style : String) : Alike (print s text style) (print t text style) := by
  intro w
  rw [run_print, run_print]
  split
  · cases s <;> cases t <;> exact ⟨rfl, rfl, rfl⟩
  · exact ⟨rfl, rfl, rfl⟩

end Action

open VersionStamp.Action

theorem Log.alike_log (message given style : String) (s t : Stream) :
    Alike (log message s given style) (log message t given style) :=
  (alike_print s t message style).bind fun _ => .refl _

theorem Resolver.alike_resolve (r : Resolver) (release : Bool) (s t : Stream) :
    Alike (r.resolve release s) (r.resolve release t) :=
  (Alike.refl _).bind fun _ => (Log.alike_log _ _ _ s t).bind fun _ => .refl _

namespace CommandLine

theorem ResolveOptions.alike_resolveWith (o : ResolveOptions) (settings : Settings) (s t : Stream) :
    Alike (o.resolveWith settings s) (o.resolveWith settings t) :=
  (Alike.refl _).bind fun _ => (Alike.refl _).bind fun _ => Resolver.alike_resolve _ _ s t

/-! ## The same words for another command -/

section

variable {ω : Type} {o o' : Options ω} (hlong : ∀ name opt, o.long name = some opt → o'.long name = some opt)
  (hletter : ∀ c opt, o.letter c = some opt → o'.letter c = some opt) (htakes : o'.takesValue = o.takesValue)
include hletter htakes

theorem SpellsLetters.mono {given : List (Setting ω)} {waiting : Option ω} {cs : List Char}
    (h : SpellsLetters o given waiting cs) : SpellsLetters o' given waiting cs := by
  induction h with
  | nil => exact .nil
  | flag hopt hflag _ ih => exact .flag (hletter _ _ hopt) (by rw [htakes, hflag]) ih
  | joined hopt hvalue hne => exact .joined (hletter _ _ hopt) (by rw [htakes, hvalue]) hne
  | waiting hopt hvalue => exact .waiting (hletter _ _ hopt) (by rw [htakes, hvalue])

include hlong

/-- Words keep their meaning where more options are known. -/
theorem Spells.mono {given : List (Setting ω)} {arguments words : List String} (h : Spells o given arguments words) :
    Spells o' given arguments words := by
  induction h with
  | nil => exact .nil
  | ended arguments => exact .ended arguments
  | argument hword _ ih => exact .argument hword ih
  | flag hne hname hopt hflag _ ih => exact .flag hne hname (hlong _ _ hopt) (by rw [htakes, hflag]) ih
  | apart value hne hname hopt hvalue _ ih =>
    exact .apart value hne hname (hlong _ _ hopt) (by rw [htakes, hvalue]) ih
  | joined value hname hopt hvalue _ ih => exact .joined value hname (hlong _ _ hopt) (by rw [htakes, hvalue]) ih
  | letters hne hhead hcs _ ih => exact .letters hne hhead (hcs.mono hletter htakes) ih
  | lettersApart value hne hhead hcs _ ih => exact .lettersApart value hne hhead (hcs.mono hletter htakes) ih

end

theorem long?_true {name : String} {opt : ResolveOption} (h : ResolveOption.long? false name = some opt) :
    ResolveOption.long? true name = some opt := by
  grind [ResolveOption.long?]

/-- The shared options, with `--json` in front. -/
theorem Spells.json {given : List (Setting ResolveOption)} {arguments words : List String}
    (h : Spells (ResolveOption.all false) given arguments words) :
    Spells (ResolveOption.all true) ((.json, "") :: given) arguments ("--json" :: words) := by
  have hletter : ∀ c opt, (ResolveOption.all false).letter c = some opt →
      (ResolveOption.all true).letter c = some opt := fun _ _ hopt => hopt
  have hmore : Spells (ResolveOption.all true) given arguments words :=
    h.mono (fun _ _ hopt => long?_true hopt) hletter rfl
  show Spells _ _ _ (("--" ++ "json") :: words)
  exact .flag (by decide) (by decide) rfl rfl hmore

theorem ResolveOptions.ofSettings_json (given : List (Setting ResolveOption)) :
    ofSettings ((.json, "") :: given) = { ofSettings given with json := true } := by
  have hfold : ∀ o : ResolveOptions, given.foldl set { o with json := true } = { given.foldl set o with json := true } := by
    induction given with
    | nil => exact fun _ => rfl
    | cons s given ih =>
      intro o
      obtain ⟨opt, value⟩ := s
      rw [List.foldl_cons, List.foldl_cons, ← ih]
      cases opt <;> rfl
  exact hfold {}

theorem run_resolve_json {given : List (Setting ResolveOption)} {words : List String}
    (h : Spells (ResolveOption.all false) given [] words) :
    run ("resolve" :: "--json" :: words) = .ok (resolve { ResolveOptions.ofSettings given with json := true }) := by
  rw [run, parse_command (by decide), Command.parse, if_neg (by decide), if_pos rfl, resolveWords_of_spells h.json,
    ResolveOptions.ofSettings_json]
  rfl

/-- The output of a `stamp` may stand anywhere among its words. -/
theorem run_stamp_of_spells {given : List (Setting ResolveOption)} {words : List String} {output : String}
    (h : Spells (ResolveOption.all false) given [output] words) :
    run ("stamp" :: words) = .ok (stamp output (.ofSettings given)) := by
  rw [run, parse_command (by decide), Command.parse, if_neg (by decide), if_neg (by decide), if_pos rfl,
    resolveWords_of_spells h]
  rfl

theorem run_stamp {given : List (Setting ResolveOption)} {words : List String} {output : String}
    (h : Spells (ResolveOption.all false) given [] words) (houtput : output.toList.head? ≠ some '-') :
    run ("stamp" :: output :: words) = .ok (stamp output (.ofSettings given)) :=
  run_stamp_of_spells (.argument (.inr houtput) h)

/-! ## Three commands -/

/-- Where a version is resolved for `print-version`, it is for `resolve --json`, which prints it. -/
theorem resolve_json_of_resolveWith {o : ResolveOptions} {s : Settings} {w : World} {info : VersionInfo}
    (hs : Settings.ofEnvironment w.env = .ok s) (hinfo : ((o.resolveWith s .errors).run w).result = .ok info) :
    ((resolve { o with json := true }).run w).result = .ok .success ∧
      ((resolve { o with json := true }).run w).output = Json.ofInfo info ++ "\n" ∧
      ((resolve { o with json := true }).run w).queries = ((o.resolveWith s .errors).run w).queries := by
  have hquiet : ((o.resolveWith s .errors).run w).output = "" :=
    ResolveOptions.quiet_resolveWith (s := .output) (by decide) o s w
  have hrun : (resolve { o with json := true }).run w =
      ((o.resolveWith s .errors).run w).andThen
        ((do write .output (Json.ofInfo info ++ "\n"); return ExitStatus.success : Action ExitStatus).run
          (w.after ((o.resolveWith s .errors).run w))) :=
    ResolveOptions.run_resolving (o := { o with json := true }) hs hinfo
  rw [hrun, run_bind_ok rfl]
  refine ⟨rfl, ?_, ?_⟩
  · rw [Report.andThen, hquiet, String.empty_append]
    exact String.append_empty
  · exact List.append_nil _

end CommandLine

/-- Logging a message leaves a file of another name alone. -/
theorem Log.holdsFile_record {w : World} {path : String} {content : ByteArray}
    (h : w.files.HoldsFile w.here path content)
    (hlast : ∀ q, w.files.find w.here path = .ok q → q.getLast? ≠ some fileName) (given message : String) :
    (record given message w).1.HoldsFile w.here path content := by
  obtain ⟨q, hfind, hfile⟩ := h
  obtain ⟨_, -, htrail⟩ := trail_record given message (.refl w.here (directoryFor w.env given) none w.files) rfl nofun
  exact ⟨q, (record_keeps given message w).find hfind, htrail.get?_eq hfile (hlast q hfind) nofun⟩

namespace Stamp

/-- What was stored is there, under its own name. -/
theorem holdsFile_store {info : VersionInfo} {path p : String} {w : World} (h : (store info path w).2 = .ok p) :
    (store info path w).1.HoldsFile w.here (Location.ofPath w.here path).text (Properties.render info w.now).toUTF8 ∧
      ∀ q, (store info path w).1.find w.here (Location.ofPath w.here path).text = .ok q →
        q.getLast? = (Path.components (Location.ofPath w.here path).text).getLast? := by
  obtain ⟨rfl, hwrite⟩ := store_eq_ok h
  refine ⟨FileTree.read_eq_ok_iff.1 (FileTree.read_write hwrite), fun q hq => ?_⟩
  obtain ⟨parent, name, before, hw, hput⟩ := FileTree.modify_cases hwrite
  rw [hput, hw.find_put] at hq
  obtain rfl := Except.ok.inj hq
  rw [hw.components_eq, List.getLast?_concat, List.getLast?_concat]

end Stamp

namespace CommandLine

/-- A `stamp` that succeeds leaves the version it resolved in its output, unless that is named as the log file. -/
theorem stamp_holdsFile {output : String} {o : ResolveOptions} {w : World}
    (h : ((stamp output o).run w).result = .ok .success) :
    ∃ s info, Settings.ofEnvironment w.env = .ok s ∧ ((o.resolveWith s .output).run w).result = .ok info ∧
      ((stamp output o).run w).queries = ((o.resolveWith s .output).run w).queries ∧
      (¬Log.IsNameOf w.here output →
        ((stamp output o).run w).files.HoldsFile w.here (Location.ofPath w.here output).text
          (Properties.render info w.now).toUTF8) := by
  obtain ⟨s, info, path, hs, hinfo, hstore, hfiles, hqueries⟩ := stamp_leaves h
  refine ⟨s, info, hs, hinfo, hqueries, fun hname => ?_⟩
  obtain ⟨hholds, hlast⟩ := Stamp.holdsFile_store hstore
  rw [hfiles]
  refine Log.holdsFile_record (w := { w with
    files := (Stamp.store info output (w.after ((o.resolveWith s .output).run w))).1 }) hholds ?_ _ _
  intro q hq
  rw [hlast q hq]
  exact hname

/-- A version that is resolved aloud and stored is stamped. -/
theorem stamp_of_resolveWith {output path : String} {o : ResolveOptions} {s : Settings} {w : World} {info : VersionInfo}
    (hs : Settings.ofEnvironment w.env = .ok s) (hinfo : ((o.resolveWith s .output).run w).result = .ok info)
    (hstore : (Stamp.store info output (w.after ((o.resolveWith s .output).run w))).2 = .ok path)
    (henv : w.env.NulFree) (hbracket : '[' ∉ ("Wrote " ++ path).toList) :
    ((stamp output o).run w).result = .ok .success := by
  obtain ⟨shown, hshown⟩ := Console.layout_eq_ok_iff.2 (Console.shown_of_no_bracket hbracket)
  have hlogged := Log.result_log
    (w := { w with files := (Stamp.store info output (w.after ((o.resolveWith s .output).run w))).1 })
    (Log.nulFree_directoryFor (show Text.NulFree "" by decide) henv) ("Wrote " ++ path) .output ""
  rw [hshown] at hlogged
  rw [run_stamp_of_stored hs hinfo (Prod.ext rfl hstore)]
  exact result_bind_eq_ok.2 ⟨(), hlogged, rfl⟩

/-- **The commands that resolve a version agree**, for all options that they share, and in every world.
Where `print-version` succeeds there is one version such that it prints this version as text for no
terminal, which is the version itself exactly if there is no sequence for a terminal in it;
`resolve --json` succeeds as well, and shows it; and a `stamp` that succeeds has written it, unless its
output is named as the log file. All three ask git the same in the same order. -/
theorem resolving_commands_agree {given : List (Setting ResolveOption)} {words : List String}
    (hwords : Spells (ResolveOption.all false) given [] words) {output : String}
    (houtput : output.toList.head? ≠ some '-') :
    ∃ print json stamp, run ("print-version" :: words) = .ok print ∧ run ("resolve" :: "--json" :: words) = .ok json ∧
      run ("stamp" :: output :: words) = .ok stamp ∧
      ∀ w : World, (print.run w).result = .ok .success → ∃ info : VersionInfo,
        ((print.run w).output = Console.plain info.displayVersion ++ "\n" ∧
          ((print.run w).output = info.displayVersion ++ "\n" ↔ ¬Console.HasSequence info.displayVersion)) ∧
        ((json.run w).result = .ok .success ∧ (json.run w).output = Json.ofInfo info ++ "\n" ∧
          (json.run w).queries = (print.run w).queries) ∧
        ((stamp.run w).result = .ok .success →
          (stamp.run w).queries = (print.run w).queries ∧
          (¬Log.IsNameOf w.here output →
            (stamp.run w).files.HoldsFile w.here (Location.ofPath w.here output).text
              (Properties.render info w.now).toUTF8)) := by
  refine ⟨_, _, _, run_printVersion hwords, run_resolve_json hwords, run_stamp hwords houtput, fun w hprint => ?_⟩
  obtain ⟨s, info, hs, hinfo, -, hqueries⟩ := printVersion_leaves hprint
  obtain ⟨-, hprinted⟩ := printVersion_of_resolveWith hs hinfo
  obtain ⟨hjson, hshown, hasked⟩ := resolve_json_of_resolveWith hs hinfo
  refine ⟨info, ⟨hprinted, ?_⟩, ⟨hjson, hshown, hasked.trans hqueries.symm⟩, fun hstamp => ?_⟩
  · rw [hprinted, String.append_left_inj, Console.plain_eq_self_iff]
  · obtain ⟨s', info', hs', hinfo', hqueries', hholds⟩ := stamp_holdsFile hstamp
    obtain rfl := Except.ok.inj (hs.symm.trans hs')
    obtain ⟨hresult, -, hsame⟩ := ResolveOptions.alike_resolveWith (.ofSettings given) s .errors .output w
    obtain rfl := Except.ok.inj ((hinfo.symm.trans hresult).trans hinfo')
    exact ⟨hqueries'.trans (hsame.symm.trans hqueries.symm), hholds⟩

/-! ## Two suffixes -/

open World

/-- In a described checkout a stamp succeeds, as long as no markup is in the description. -/
theorem stamp_describedAs (text : String) (h : Text.trim (Text.unifyBreaks (text ++ "\n")) = text)
    (hne : text ≠ "") (hbracket : '[' ∉ (Git.compact text).toList) {given : List (Setting ResolveOption)}
    (hdirectory : lastValue? .directory given = none) (hsnapshot : ¬ReleaseRequested given []) :
    ((stamp "out" (.ofSettings given)).run (describedAs text)).result = .ok .success := by
  have henv : Settings.ofEnvironment (describedAs text).env = .ok Settings.initial :=
    Settings.ofEnvironment_nil
  obtain ⟨info, hinfo, -⟩ := resolveWith_describedAs text h hne hbracket hdirectory hsnapshot .output
  have hsame : ((ResolveOptions.resolveWith (.ofSettings given) Settings.initial .output).run (describedAs text)).files =
      (describedAs text).files := by
    rw [ResolveOptions.resolveWith_leaves hinfo]
    exact Log.files_record_of_no_directory rfl _
  refine stamp_of_resolveWith henv hinfo ?_ (Resolver.nulFree_env_describedAs text)
    (show '[' ∉ ("Wrote " ++ "/out").toList by decide)
  rw [World.after_self _ _ hsame]
  exact Stamp.store_describedAs text info

/-- A snapshot five commits behind its tag, printed, shown and stamped with a suffix of its own. -/
theorem suffix_is_printed_and_stamped :
    Spells (ResolveOption.all false) [(.task, "build"), (.suffix, "RC")] [] ["-t", "build", "--suffix=RC"] ∧
      ∃ print json stamp info, run ["print-version", "-t", "build", "--suffix=RC"] = .ok print ∧
        run ["resolve", "--json", "-t", "build", "--suffix=RC"] = .ok json ∧
        run ["stamp", "out", "-t", "build", "--suffix=RC"] = .ok stamp ∧
        (print.run (describedAs "v1-5-gbeef")).output = "v1-5-beef-RC\n" ∧
        (json.run (describedAs "v1-5-gbeef")).output = Json.ofInfo info ++ "\n" ∧
        Console.plain info.displayVersion = "v1-5-beef-RC" ∧
        (stamp.run (describedAs "v1-5-gbeef")).files.HoldsFile [] "/out" (Properties.render info (.utc 0)).toUTF8 := by
  have hwords : Spells (ResolveOption.all false) [(.task, "build"), (.suffix, "RC")] []
      ["-t", "build", "--suffix=RC"] :=
    spells_of_sort (by simp [sort, shape, cutValue, cluster, withSettings, ResolveOption.all, ResolveOption.long?,
      ResolveOption.letter?, ResolveOption.takesValue])
  have houtput : "out".toList.head? ≠ some '-' := by decide
  have hsnapshot : ¬ReleaseRequested [(.task, "build"), (.suffix, "RC")] [] := by decide
  obtain ⟨print, json, stamp, hprint, hjson, hstamp, hagree⟩ := resolving_commands_agree hwords houtput
  obtain rfl := Except.ok.inj (hprint.symm.trans (run_printVersion hwords))
  obtain rfl := Except.ok.inj (hstamp.symm.trans (run_stamp hwords houtput))
  obtain ⟨hdone, hprinted⟩ := printVersion_describedAs "v1-5-gbeef" (by decide) (by decide) (by decide) rfl hsnapshot
  have hstamped := stamp_describedAs "v1-5-gbeef" (by decide) (by decide) (by decide) rfl hsnapshot
  have hplain : Console.plain (joinSuffix (Git.compact "v1-5-gbeef")
      (suffixFor [(.task, "build"), (.suffix, "RC")] [])) ++ "\n" = "v1-5-beef-RC" ++ "\n" := by decide
  have hread := hprinted.trans hplain
  obtain ⟨info, ⟨hversion, -⟩, ⟨-, hshown, -⟩, hstore⟩ := hagree _ hdone
  refine ⟨hwords, _, json, _, info, hprint, hjson, hstamp, hread, hshown, ?_, (hstore hstamped).2 (by decide)⟩
  rw [hread, String.append_left_inj] at hversion
  exact hversion.symm

/-- A suffix that switches colours off is shown in the JSON, and missing from what is printed. -/
theorem json_keeps_escape_in_suffix :
    Spells (ResolveOption.all false) [(.suffix, "\x1B[0m")] [] ["--suffix", "\x1B[0m"] ∧
      ∃ print json info, run ["print-version", "--suffix", "\x1B[0m"] = .ok print ∧
        run ["resolve", "--json", "--suffix", "\x1B[0m"] = .ok json ∧
        (print.run (describedAs "v1")).result = .ok .success ∧ (print.run (describedAs "v1")).output = "v1-\n" ∧
        (json.run (describedAs "v1")).output = Json.ofInfo info ++ "\n" ∧ info.displayVersion = "v1-\x1B[0m" := by
  have hwords : Spells (ResolveOption.all false) [(.suffix, "\x1B[0m")] [] ["--suffix", "\x1B[0m"] :=
    spells_of_sort (by simp [sort, shape, cutValue, withSettings, ResolveOption.all, ResolveOption.long?,
      ResolveOption.takesValue])
  have hsnapshot : ¬ReleaseRequested [(.suffix, "\x1B[0m")] [] := by decide
  have henv : Settings.ofEnvironment (describedAs "v1").env = .ok Settings.initial :=
    show Settings.ofEnvironment [] = .ok Settings.initial from rfl
  obtain ⟨info, hinfo, hversion⟩ :=
    resolveWith_describedAs "v1" (by decide) (by decide) (by decide) rfl hsnapshot .errors
  obtain ⟨hdone, hprinted⟩ := printVersion_of_resolveWith henv hinfo
  obtain ⟨-, hshown, -⟩ := resolve_json_of_resolveWith henv hinfo
  have hplain : Console.plain (joinSuffix (Git.compact "v1") "\x1B[0m") ++ "\n" = "v1-\n" := by decide
  rw [hversion] at hprinted
  exact ⟨hwords, _, _, info, run_printVersion hwords, run_resolve_json hwords, hdone, hprinted.trans hplain, hshown,
    hversion⟩

end CommandLine
end VersionStamp
