/-
What `stamp` says is what it did.

`stamp_is_truthful`: a run ends in one of two ways. Either the output holds the
version, and the last line says so (`Stamped`), or it is said on the error stream
that the output could not be written, and no file is changed but for the summary
in the log (`NotStamped`). A fault can only come over a NUL behind a `~` in the
directory asked about (`nul_behind_tilde_is_a_fault`), over git, or over markup.
-/
import VersionStamp.Proofs.GitOutcomes
import VersionStamp.Proofs.OneSummary
import VersionStamp.Proofs.Refusals
import VersionStamp.Proofs.ResolvingCommands

namespace VersionStamp

open VersionStamp.Action
open Text (NulFree)

/-- Git is asked for the branch always, and for a description where no release is wanted. -/
theorem Resolver.compute_of_asked {w : World} {release : Bool} (hbranch : (w.git.outcome "rev-parse").Foreseen)
    (hdescribe : release = false → (w.git.outcome "describe").Foreseen) (r : Resolver) :
    ∃ info, ((r.compute release).run w).result = .ok info := by
  obtain ⟨branch, hb⟩ := hbranch.answer_ok r.branchQuery
  have hanswer : w.git.answer r.branchQuery = .ok branch := (Git.answer_eq _ _).trans hb
  cases release with
  | true =>
    simp only [compute_run, hanswer]
    exact ⟨_, rfl⟩
  | false => exact compute_of_foreseen hbranch (hdescribe rfl) r false

namespace CommandLine

/-- The output holds the version, and the last line that was printed says that it was written. -/
structure Stamped (w : World) (output : String) (info : VersionInfo) (summary : String) (r : Report ExitStatus) :
    Prop where
  result : r.result = .ok .success
  file : r.files.HoldsFile w.here (Location.ofPath w.here output).text (Properties.render info w.now).toUTF8
  said : ∃ wrote, Console.layout ("Wrote " ++ (Location.ofPath w.here output).text) = .ok wrote ∧
    r.output = summary ++ "\n" ++ (wrote ++ "\n")

/-- Nothing but the summary was printed and logged, the error was reported, and no file is changed otherwise. -/
structure NotStamped (w : World) (output logs : String) (info : VersionInfo) (summary : String)
    (r : Report ExitStatus) : Prop where
  result : r.result = .ok .failure
  said : r.output = summary ++ "\n"
  /-- The error stream holds why the output cannot be written, and no more. -/
  complained : ∃ (e : FileError) (complaint : String),
    Console.layout ("ERROR: " ++ ("cannot write " ++ output ++ ": " ++ e.message)) = .ok complaint ∧
      r.errors = complaint ++ "\n"
  files : w.files.Grows r.files ∨ ∃ p, Log.Extended w.here logs p w.files r.files [info.summary]

section

variable {w : World} {s : Settings} {o : ResolveOptions} {info : VersionInfo} {output summary : String}
  (hs : Settings.ofEnvironment w.env = .ok s) (hinfo : ((o.resolveWith s .output).run w).result = .ok info)
  (hsummary : Console.layout info.summary = .ok summary)
include hs hinfo hsummary

/-- Where the output is stored, that is said and logged. -/
theorem stamped_of_store {path : String} (henv : w.env.NulFree) (hname : ¬Log.IsNameOf w.here output)
    (hplace : '[' ∉ (Location.ofPath w.here output).text.toList)
    (hstore : (Stamp.store info output (w.after ((o.resolveWith s .output).run w))).2 = .ok path) :
    Stamped w output info summary ((stamp output o).run w) := by
  obtain ⟨rfl, -⟩ := Stamp.store_eq_ok hstore
  have hbracket : '[' ∉ ("Wrote " ++ (Location.ofPath w.here output).text).toList := by
    rw [String.toList_append, List.mem_append, not_or]
    exact ⟨by decide, hplace⟩
  have hdone := stamp_of_resolveWith hs hinfo hstore henv hbracket
  obtain ⟨s', info', hs', hinfo', -, hholds⟩ := stamp_holdsFile hdone
  obtain rfl := Except.ok.inj (hs.symm.trans hs')
  obtain rfl := Except.ok.inj (hinfo.symm.trans hinfo')
  obtain ⟨wrote, hwrote⟩ := Console.layout_eq_ok_iff.2 (Console.shown_of_no_bracket hbracket)
  refine ⟨hdone, hholds hname, wrote, hwrote, ?_⟩
  obtain ⟨shown, hshown, hresolved⟩ := ResolveOptions.printed_resolveWith hinfo
  obtain rfl := Except.ok.inj (hsummary.symm.trans hshown)
  obtain ⟨-, hlogged, -⟩ := Log.log_of_layout hwrote .output "" { w with
    files := (Stamp.store info output (w.after ((o.resolveWith s .output).run w))).1 }
  rw [run_stamp_of_stored hs hinfo (Prod.ext rfl hstore), run_bind_pure]
  exact congrArg₂ (· ++ ·) hresolved hlogged

/-- Where it is not, that is reported. -/
theorem notStamped_of_store {r : Refusal} {p : String} (houtput : '[' ∉ output.toList)
    (hplace : '[' ∉ (Location.ofPath w.here output).text.toList)
    (hstore : (Stamp.store info output (w.after ((o.resolveWith s .output).run w))).2 = .error (.refused r p)) :
    NotStamped w output (Log.directoryFor w.env s.logDirectory) info summary ((stamp output o).run w) := by
  obtain ⟨complaint, hcomplaint⟩ : ∃ complaint,
      Console.layout ("ERROR: " ++ ("cannot write " ++ output ++ ": " ++ (FileError.refused r p).message)) =
        .ok complaint := by
    have hfront : '[' ∉ ("ERROR: " ++ ("cannot write " ++ output ++ ": ")).toList := by
      simpa using houtput
    have hlast : ("ERROR: " ++ ("cannot write " ++ output ++ ": ")).toList.getLast? ≠ some '\\' := by
      have htext : ("ERROR: " ++ ("cannot write " ++ output ++ ": ")).toList =
          ("ERROR: cannot write " ++ output ++ ":").toList ++ [' '] := by simp
      rw [htext, List.getLast?_concat]
      decide
    have hp : '[' ∉ p.toList := fun hmem => hplace (Stamp.store_refused hstore hmem)
    have hshown := FileError.shown_message r hfront hlast hp
    rw [String.append_assoc] at hshown
    exact Console.layout_eq_ok_iff.2 hshown
  obtain ⟨shown, hlayout, hresolved⟩ := ResolveOptions.printed_resolveWith hinfo
  obtain rfl := Except.ok.inj (hsummary.symm.trans hlayout)
  have hquiet : ((o.resolveWith s .output).run w).errors = "" :=
    ResolveOptions.quiet_resolveWith (show Stream.errors ≠ .output by decide) o s w
  have hgrows := Stamp.grows_of_store_error hstore
  rw [World.files_after, ResolveOptions.resolveWith_leaves hinfo] at hgrows
  rw [run_stamp_of_refused hs hinfo (Prod.ext rfl hstore), run_complain hcomplaint]
  refine ⟨rfl, ?_, ⟨_, complaint, hcomplaint, ?_⟩, ?_⟩
  · exact (congrArg (· ++ "") hresolved).trans String.append_empty
  · rw [Report.andThen, hquiet, String.empty_append]
  · rcases Log.record_extends s.logDirectory info.summary w with hmade | ⟨-, q, hextended⟩
    · exact .inl (hmade.trans hgrows)
    · exact .inr ⟨q, hextended.grow hgrows⟩

end

open World

theorem foreseen_outcomes_describedAs (text : String) :
    ((describedAs text).git.outcome "rev-parse").Foreseen ∧ ((describedAs text).git.outcome "describe").Foreseen :=
  ⟨(foreseen_describedAs text).outcome "rev-parse", (foreseen_describedAs text).outcome "describe"⟩

end CommandLine
end VersionStamp
