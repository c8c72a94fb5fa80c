/-
What a resolving command does in turn.

Each of the three resolves the version aloud and goes on with it (`run_resolving`).
On the files the first part does no more than to log the summary
(`resolveWith_leaves`), and what `stamp` does besides when it succeeds is to store
the output and to log that it did (`stamp_leaves`).
-/
import VersionStamp.Proofs.Logging
import VersionStamp.Proofs.Quiet

namespace VersionStamp

open VersionStamp.Action

/-! ## Resolving aloud -/

/-- A message that the console shows is printed, and recorded if that can be done. -/
theorem Log.log_of_layout {message style shown : String} (hshown : Console.layout message style = .ok shown)
    (stream : Stream) (given : String) (w : World) :
    ((log message stream given style).run w).files = (record given message w).1 ∧
      ((log message stream given style).run w).printed stream = shown ++ "\n" ∧
      ((log message stream given style).run w).queries = [] := by
  have hprint : (print stream message style).run w = (write stream (shown ++ "\n")).run w := by
    rw [run_print, hshown]
  have hdone : ((print stream message style).run w).result = .ok () := by
    rw [hprint]
    cases stream <;> rfl
  have hafter : w.after ((print stream message style).run w) = w :=
    World.after_self _ _ (onlyPrints_print stream message style w).1
  have hempty : shown ++ "\n" ++ ("" ++ "") = shown ++ "\n" := by simp
  rw [log, run_bind_ok hdone, hafter, run_bind_ok (by rw [run_onFiles]), run_onFiles, hprint]
  split <;> cases stream <;> exact ⟨rfl, hempty, rfl⟩

theorem Log.log_leaves {message given style : String} {stream : Stream} {w : World}
    (h : ((log message stream given style).run w).result = .ok ()) :
    ((log message stream given style).run w).files = (record given message w).1 ∧
      ((log message stream given style).run w).queries = [] := by
  obtain ⟨⟨shown, hshown⟩, -⟩ := result_log_eq_ok_iff.1 h
  obtain ⟨hfiles, -, hqueries⟩ := log_of_layout hshown stream given w
  exact ⟨hfiles, hqueries⟩

/-- Resolving aloud resolves, and logs the summary. -/
theorem Resolver.resolve_leaves {r : Resolver} {release : Bool} {stream : Stream} {w : World} {info : VersionInfo}
    (h : ((r.resolve release stream).run w).result = .ok info) :
    ((r.resolve release stream).run w).files = (Log.record r.logDirectory info.summary w).1 ∧
      ((r.resolve release stream).run w).queries = ((r.compute release).run w).queries := by
  have hcompute := compute_of_resolve h
  have hafter : w.after ((r.compute release).run w) = w := World.after_self _ _ (r.compute_silent release w).1
  obtain ⟨info', hinfo', hrest⟩ := result_bind_eq_ok.1 h
  obtain rfl := Except.ok.inj (hinfo'.symm.trans hcompute)
  obtain ⟨_, hlog, -⟩ := result_bind_eq_ok.1 hrest
  rw [hafter] at hlog
  obtain ⟨hfiles, hqueries⟩ := Log.log_leaves hlog
  rw [resolve, run_bind_ok hcompute, hafter, run_bind_ok hlog]
  refine ⟨hfiles, ?_⟩
  simp [Report.andThen, hqueries]

namespace CommandLine

namespace ResolveOptions

variable {o : ResolveOptions} {s : Settings} {stream : Stream} {next : VersionInfo → Action ExitStatus} {w : World}
  {info : VersionInfo}

theorem resolveWith_leaves (h : ((o.resolveWith s stream).run w).result = .ok info) :
    ((o.resolveWith s stream).run w).files = (Log.record s.logDirectory info.summary w).1 := by
  rw [resolveWith_run] at h ⊢
  cases hcheckout : Checkout.locate w (o.startIn w) with
  | error e =>
    rw [hcheckout] at h
    cases h
  | ok checkout =>
    rw [hcheckout] at h
    exact (Resolver.resolve_leaves h).1

/-- With usable settings the version is resolved first. -/
theorem run_resolving (hs : Settings.ofEnvironment w.env = .ok s)
    (hinfo : ((o.resolveWith s stream).run w).result = .ok info) :
    (o.resolving stream next).run w =
      ((o.resolveWith s stream).run w).andThen ((next info).run (w.after ((o.resolveWith s stream).run w))) := by
  rw [resolving, run_world_bind, hs]
  exact run_bind_ok hinfo next

theorem resolving_success (h : ((o.resolving stream next).run w).result = .ok .success) :
    ∃ s info, Settings.ofEnvironment w.env = .ok s ∧ ((o.resolveWith s stream).run w).result = .ok info ∧
      ((next info).run (w.after ((o.resolveWith s stream).run w))).result = .ok .success := by
  rw [resolving, run_world_bind] at h
  cases hs : Settings.ofEnvironment w.env with
  | error e =>
    rw [hs] at h
    exact absurd h (complain_ne_success _ w)
  | ok s =>
    rw [hs] at h
    obtain ⟨info, hinfo, hnext⟩ := result_bind_eq_ok.1 h
    exact ⟨s, info, rfl, hinfo, hnext⟩

/-- A command that goes on by printing alone leaves no more behind than resolving the version does. -/
theorem resolving_leaves (h : ((o.resolving stream next).run w).result = .ok .success)
    (hnext : ∀ info, (next info).OnlyPrints) :
    ∃ s info, Settings.ofEnvironment w.env = .ok s ∧ ((o.resolveWith s stream).run w).result = .ok info ∧
      ((o.resolving stream next).run w).files = ((o.resolveWith s stream).run w).files ∧
      ((o.resolving stream next).run w).queries = ((o.resolveWith s stream).run w).queries := by
  obtain ⟨s, info, hs, hinfo, -⟩ := resolving_success h
  have hrun : (o.resolving stream next).run w = (o.resolveWith s stream >>= next).run w := by
    rw [resolving, run_world_bind, hs]
  rw [hrun]
  exact ⟨s, info, hs, hinfo, run_bind_onlyPrints _ hnext w⟩

end ResolveOptions

/-! ## Going on with the version -/

theorem onlyPrints_write (stream : Stream) (text : String) : OnlyPrints (write stream text) := by
  intro w
  cases stream <;> exact ⟨rfl, rfl⟩

theorem printVersion_leaves {o : ResolveOptions} {w : World} (h : ((printVersion o).run w).result = .ok .success) :
    ∃ s info, Settings.ofEnvironment w.env = .ok s ∧ ((o.resolveWith s .errors).run w).result = .ok info ∧
      ((printVersion o).run w).files = ((o.resolveWith s .errors).run w).files ∧
      ((printVersion o).run w).queries = ((o.resolveWith s .errors).run w).queries :=
  ResolveOptions.resolving_leaves h fun _ => (onlyPrints_write _ _).bind fun _ => onlyPrints_pure _

theorem resolve_leaves {o : ResolveOptions} {w : World} (h : ((resolve o).run w).result = .ok .success) :
    ∃ s info stream, Settings.ofEnvironment w.env = .ok s ∧ ((o.resolveWith s stream).run w).result = .ok info ∧
      ((resolve o).run w).files = ((o.resolveWith s stream).run w).files ∧
      ((resolve o).run w).queries = ((o.resolveWith s stream).run w).queries := by
  have hnext : ∀ info, OnlyPrints (do
      if o.json then
        write .output (Json.ofInfo info ++ "\n")
      else
        print .output ("  revision: " ++ Settings.orElse info.revision "(none)")
        print .output ("  version:  " ++ info.displayVersion)
      return ExitStatus.success) := by
    intro info
    cases o.json with
    | true => exact (onlyPrints_write _ _).bind fun _ => onlyPrints_pure _
    | false => exact (onlyPrints_print _ _ _).bind fun _ => (onlyPrints_print _ _ _).bind fun _ => onlyPrints_pure _
  obtain ⟨s, info, hs, hinfo, hleft⟩ := ResolveOptions.resolving_leaves h hnext
  exact ⟨s, info, _, hs, hinfo, hleft⟩

section

variable {output : String} {o : ResolveOptions} {w : World} {s : Settings} {info : VersionInfo} {t : FileTree}
  (hs : Settings.ofEnvironment w.env = .ok s) (hinfo : ((o.resolveWith s .output).run w).result = .ok info)
include hs hinfo

/-- With the output stored, `stamp` goes on to log that. -/
theorem run_stamp_of_stored {path : String}
    (hstore : Stamp.store info output (w.after ((o.resolveWith s .output).run w)) = (t, .ok path)) :
    (stamp output o).run w = ((o.resolveWith s .output).run w).andThen
      ((do Log.log ("Wrote " ++ path) .output ""; return .success : Action ExitStatus).run { w with files := t }) := by
  rw [stamp, ResolveOptions.run_resolving hs hinfo, run_bind_ok (by rw [run_onFiles]), run_onFiles, hstore]
  simp [Report.andThen, World.after]

/-- With the output refused, `stamp` goes on to report that. -/
theorem run_stamp_of_refused {r : Refusal} {p : String}
    (hstore : Stamp.store info output (w.after ((o.resolveWith s .output).run w)) = (t, .error (.refused r p))) :
    (stamp output o).run w = ((o.resolveWith s .output).run w).andThen
      ((complain ("cannot write " ++ output ++ ": " ++ (FileError.refused r p).message)).run { w with files := t }) := by
  rw [stamp, ResolveOptions.run_resolving hs hinfo, run_bind_ok (by rw [run_onFiles]), run_onFiles, hstore]
  simp [Report.andThen, World.after]

end

/-- A `stamp` that succeeds has resolved the version, stored it, and logged that it did. -/
theorem stamp_leaves {output : String} {o : ResolveOptions} {w : World}
    (h : ((stamp output o).run w).result = .ok .success) :
    ∃ s info path, Settings.ofEnvironment w.env = .ok s ∧
      ((o.resolveWith s .output).run w).result = .ok info ∧
      (Stamp.store info output (w.after ((o.resolveWith s .output).run w))).2 = .ok path ∧
      ((stamp output o).run w).files =
        (Log.record "" ("Wrote " ++ path)
          { w with files := (Stamp.store info output (w.after ((o.resolveWith s .output).run w))).1 }).1 ∧
      ((stamp output o).run w).queries = ((o.resolveWith s .output).run w).queries := by
  obtain ⟨s, info, hs, hinfo, hnext⟩ := ResolveOptions.resolving_success h
  obtain ⟨stored, hstored, hrest⟩ := result_bind_eq_ok.1 hnext
  rw [run_onFiles] at hstored hrest
  obtain rfl := Except.ok.inj hstored
  cases hpath : (Stamp.store info output (w.after ((o.resolveWith s .output).run w))).2 with
  | error e =>
    rw [hpath] at hrest
    cases e with
    | embeddedNul => cases hrest
    | refused cause p => exact absurd hrest (complain_ne_success _ _)
  | ok path =>
    rw [hpath] at hrest
    obtain ⟨_, hlog, -⟩ := result_bind_eq_ok.1 hrest
    obtain ⟨hfiles, hqueries⟩ := Log.log_leaves hlog
    rw [run_stamp_of_stored hs hinfo (Prod.ext rfl hpath), run_bind_pure]
    refine ⟨s, info, path, hs, hinfo, hpath, hfiles, ?_⟩
    exact (congrArg (_ ++ ·) hqueries).trans (List.append_nil _)

end CommandLine
end VersionStamp
