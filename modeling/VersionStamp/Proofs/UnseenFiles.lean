/-
Files are not seen from outside.

`files_are_not_seen`: what `print-version` and `resolve` tell, by how they end and
by what they print, is up to their words, the environment and git. Whatever the
files and the working directory, with the log file at hand or in the way, it is
the same, and so it is however often the command is run. Asking git in another
directory makes no difference as long as git turns out the same.
-/
import VersionStamp.Proofs.Demands
import VersionStamp.Proofs.GitOutcomes
import VersionStamp.Proofs.OneSummary
import VersionStamp.Proofs.Refusals
import VersionStamp.Proofs.SideBySide

namespace VersionStamp

open VersionStamp.Action
open Text (NulFree)

variable {α β : Type}

/-- What is seen of an action from outside: how it ended, and what it printed. -/
structure Telling (α : Type) where
  result : Except Fault α
  output : String
  errors : String

def Report.told (r : Report α) : Telling α := ⟨r.result, r.output, r.errors⟩

/-- A world with this environment and this behaviour of git, whatever else is in it. -/
structure World.Around (env : Environment) (git : Git) (w : World) : Prop where
  env_eq : w.env = env
  git_eq : w.git = git

theorem World.Around.after {env : Environment} {git : Git} {w : World} (h : w.Around env git) (r : Report α) :
    (w.after r).Around env git := ⟨h.env_eq, h.git_eq⟩

namespace Action

/-- The actions tell the same, each in any world with this environment and this git. -/
def TellAlike (env : Environment) (git : Git) (x y : Action α) : Prop :=
  ∀ w v : World, w.Around env git → v.Around env git → (x.run w).told = (y.run v).told

variable {env : Environment} {git : Git}

theorem tellAlike_of_sideBySide {x y : Action α}
    (h : SideBySide (fun w v => w.Around env git ∧ v.Around env git) x y) : TellAlike env git x y := by
  intro w v hw hv
  obtain ⟨hagrees, -⟩ := h w v ⟨hw, hv⟩
  rw [Report.told, Report.told, hagrees.result, hagrees.output, hagrees.errors]

theorem TellAlike.bind {x y : Action α} {f g : α → Action β} (hx : TellAlike env git x y)
    (hf : ∀ a, TellAlike env git (f a) (g a)) : TellAlike env git (x >>= f) (y >>= g) := by
  intro w v hw hv
  have htold := hx w v hw hv
  simp only [Report.told, Telling.mk.injEq] at htold
  obtain ⟨hresult, houtput, herrors⟩ := htold
  cases hend : (x.run w).result with
  | error e =>
    rw [run_bind_error hend, run_bind_error (hresult ▸ hend)]
    simp only [Report.told, Report.withFault, houtput, herrors]
  | ok a =>
    have hrest := hf a _ _ (hw.after (x.run w)) (hv.after (y.run v))
    simp only [Report.told, Telling.mk.injEq] at hrest
    obtain ⟨hresult', houtput', herrors'⟩ := hrest
    rw [run_bind_ok hend, run_bind_ok (hresult ▸ hend)]
    simp only [Report.told, Report.andThen, houtput, herrors, hresult', houtput', herrors']

theorem tellAlike_pure (a : α) : TellAlike env git (pure a) (pure a) := tellAlike_of_sideBySide (sideBySide_pure a)

/-- Git may be asked in other words that it answers the same. -/
theorem tellAlike_ask {q q' : Git.Query} (h : git.answer q = git.answer q') : TellAlike env git (ask q) (ask q') := by
  intro w v hw hv
  rw [run_ask, run_ask, hw.git_eq, hv.git_eq, h]
  rfl

end Action

/-! ## Logging -/

namespace Log

/-- Logging tells no more than printing does, unless there is a NUL in the path. -/
theorem told_log {given : String} {w : World} (hlogs : NulFree (directoryFor w.env given)) (message : String)
    (stream : Stream) (style : String) :
    ((log message stream given style).run w).told = ((print stream message style).run w).told := by
  have hresult := result_log hlogs message stream style
  cases hshown : Console.layout message style with
  | error e =>
    have hprint : (print stream message style).run w = ⟨.error (.console e), w.files, "", "", []⟩ := by
      rw [run_print, hshown]
    rw [log, run_bind_error (by rw [hprint]), hprint]
    rfl
  | ok shown =>
    have hprint : (print stream message style).run w = (write stream (shown ++ "\n")).run w := by
      rw [run_print, hshown]
    obtain ⟨-, hprinted, -⟩ := log_of_layout hshown stream given w
    rw [hshown] at hresult
    rw [hprint]
    cases stream with
    | output =>
      have hother := quiet_log (show Stream.errors ≠ .output by decide) message given style w
      simp only [Report.printed] at hprinted hother
      simp only [Report.told, hresult, hprinted, hother]
      rfl
    | errors =>
      have hother := quiet_log (show Stream.output ≠ .errors by decide) message given style w
      simp only [Report.printed] at hprinted hother
      simp only [Report.told, hresult, hprinted, hother]
      rfl

theorem tellAlike_log {env : Environment} {git : Git} {given : String} (hlogs : NulFree (directoryFor env given))
    (message : String) (stream : Stream) (style : String) :
    TellAlike env git (log message stream given style) (log message stream given style) := by
  intro w v hw hv
  rw [told_log (hw.env_eq.symm ▸ hlogs), told_log (hv.env_eq.symm ▸ hlogs)]
  exact tellAlike_of_sideBySide (sideBySide_print stream message style) w v hw hv

end Log

/-! ## Resolving -/

namespace Resolver

variable {env : Environment} {git : Git}

/-- A resolver of another checkout resolves the same. -/
theorem tellAlike_compute (r : Resolver) (directory : String) (release : Bool) :
    TellAlike env git (r.compute release) (({ r with directory := directory } : Resolver).compute release) := by
  have hask : ∀ arguments, TellAlike env git (ask (r.query arguments))
      (ask (({ r with directory := directory } : Resolver).query arguments)) := fun _ => tellAlike_ask rfl
  refine (hask Git.branchArguments).bind fun branch => ?_
  cases release with
  | true => exact tellAlike_pure _
  | false =>
    exact ((hask Git.describeArguments).bind fun _ => tellAlike_pure _).bind fun _ => tellAlike_pure _

theorem tellAlike_resolve {r : Resolver} (hlogs : NulFree (Log.directoryFor env r.logDirectory)) (directory : String)
    (release : Bool) (stream : Stream) :
    TellAlike env git (r.resolve release stream)
      (({ r with directory := directory } : Resolver).resolve release stream) :=
  (r.tellAlike_compute directory release).bind fun info =>
    (Log.tellAlike_log hlogs info.summary stream "").bind fun _ => tellAlike_pure info

end Resolver

/-! ## Commands -/

namespace CommandLine

/-! ### Words without NUL -/

theorem nulFree_of_spellsLetters {ω : Type} {o : Options ω} {given : List (Setting ω)} {waiting : Option ω}
    {cs : List Char} (h : SpellsLetters o given waiting cs) (hcs : '\x00' ∉ cs) : ∀ s ∈ given, NulFree s.2 := by
  induction h with
  | nil | waiting => exact List.forall_mem_nil _
  | flag _ _ _ ih =>
    intro s hs
    rcases List.mem_cons.1 hs with rfl | hs
    · exact show NulFree "" by decide
    · exact ih (fun hmem => hcs (List.mem_cons_of_mem _ hmem)) s hs
  | joined _ _ _ =>
    intro s hs
    obtain rfl := List.mem_singleton.1 hs
    rw [NulFree, String.toList_ofList]
    exact fun hmem => hcs (List.mem_cons_of_mem _ hmem)

/-- Words without NUL give settings without. -/
theorem nulFree_of_spells {ω : Type} {o : Options ω} {given : List (Setting ω)} {arguments words : List String}
    (h : Spells o given arguments words) (hwords : ∀ word ∈ words, NulFree word) : ∀ s ∈ given, NulFree s.2 := by
  have hletters : ∀ cs : List Char, NulFree (String.ofList ('-' :: cs)) → '\x00' ∉ cs := by
    intro cs hcs hmem
    rw [NulFree, String.toList_ofList] at hcs
    exact hcs (List.mem_cons_of_mem _ hmem)
  induction h with
  | nil | ended => exact List.forall_mem_nil _
  | argument _ _ ih => exact ih (List.forall_mem_cons.1 hwords).2
  | flag _ _ _ _ _ ih =>
    obtain ⟨-, hrest⟩ := List.forall_mem_cons.1 hwords
    exact List.forall_mem_cons.2 ⟨show NulFree "" by decide, ih hrest⟩
  | apart value _ _ _ _ _ ih =>
    obtain ⟨-, hrest⟩ := List.forall_mem_cons.1 hwords
    obtain ⟨hvalue, hrest⟩ := List.forall_mem_cons.1 hrest
    exact List.forall_mem_cons.2 ⟨hvalue, ih hrest⟩
  | joined value _ _ _ _ ih =>
    obtain ⟨hword, hrest⟩ := List.forall_mem_cons.1 hwords
    have hvalue : NulFree value := by
      rw [NulFree, String.toList_append] at hword
      exact fun hmem => hword (List.mem_append_right _ hmem)
    exact List.forall_mem_cons.2 ⟨hvalue, ih hrest⟩
  | letters _ _ hcs _ ih =>
    obtain ⟨hword, hrest⟩ := List.forall_mem_cons.1 hwords
    exact List.forall_mem_append.2 ⟨nulFree_of_spellsLetters hcs (hletters _ hword), ih hrest⟩
  | lettersApart value _ _ hcs _ ih =>
    obtain ⟨hword, hrest⟩ := List.forall_mem_cons.1 hwords
    obtain ⟨hvalue, hrest⟩ := List.forall_mem_cons.1 hrest
    exact List.forall_mem_append.2 ⟨nulFree_of_spellsLetters hcs (hletters _ hword),
      List.forall_mem_cons.2 ⟨hvalue, ih hrest⟩⟩

theorem nulFree_directory {json : Bool} {given : List (Setting ResolveOption)} {arguments words : List String}
    (h : Spells (ResolveOption.all json) given arguments words) (hwords : ∀ word ∈ words, NulFree word) :
    ∀ directory ∈ (ResolveOptions.ofSettings given).directory, NulFree directory := by
  intro directory hdirectory
  rw [ResolveOptions.ofSettings_eq] at hdirectory
  exact nulFree_of_spells h hwords (.directory, directory) (mem_valuesOf.1 (List.mem_of_getLast? hdirectory))

/-! ### Resolving commands -/

variable {env : Environment} {git : Git} {o : ResolveOptions}

section

variable (henv : env.NulFree) (ho : ∀ directory ∈ o.directory, Checkout.Expands directory)
include henv ho

/-- The checkout may be another one, and so may be what becomes of the log. -/
theorem ResolveOptions.tellAlike_resolveWith {s : Settings} (hs : Settings.ofEnvironment env = .ok s)
    (stream : Stream) : TellAlike env git (o.resolveWith s stream) (o.resolveWith s stream) := by
  have hlogs := Log.nulFree_directoryFor (Settings.nulFree_logDirectory hs henv) henv
  intro w v hw hv
  obtain ⟨checkout, hcheckout⟩ := locate_startIn (o := o) (hw.env_eq.symm ▸ henv) ho
  obtain ⟨checkout', hcheckout'⟩ := locate_startIn (o := o) (hv.env_eq.symm ▸ henv) ho
  rw [resolveWith_run, resolveWith_run, hcheckout, hcheckout']
  exact Resolver.tellAlike_resolve (r := .ofSettings checkout.text (o.override s)) hlogs checkout'.text _ stream w v hw hv

theorem ResolveOptions.tellAlike_resolving (stream : Stream) {next : VersionInfo → Action ExitStatus}
    (hnext : ∀ info, TellAlike env git (next info) (next info)) :
    TellAlike env git (o.resolving stream next) (o.resolving stream next) := by
  intro w v hw hv
  rw [resolving, run_world_bind, run_world_bind, hw.env_eq, hv.env_eq]
  cases hs : Settings.ofEnvironment env with
  | error e => exact tellAlike_of_sideBySide (sideBySide_complain e.message) w v hw hv
  | ok s => exact (tellAlike_resolveWith henv ho hs stream).bind hnext w v hw hv

theorem Kind.tellAlike_perform {kind : Kind} (hkind : ∀ output, kind ≠ .stamp output) :
    TellAlike env git (kind.command o).perform (kind.command o).perform := by
  rw [kind.perform_command]
  exact ResolveOptions.tellAlike_resolving henv ho _ fun info =>
    tellAlike_of_sideBySide (kind.sideBySide_goOn_printing hkind info)

end

/-- What a command line tells. Words that are wrong are told without a look at the world. -/
def tells (words : List String) (w : World) : Except UsageError (Telling ExitStatus) :=
  (run words).map fun act => (act.run w).told

/-- The world that a command line leaves behind. -/
def leaves (words : List String) (w : World) : World :=
  match run words with
  | .ok act => w.after (act.run w)
  | .error _ => w

/-- What a command line tells that is run again and again, each time with the files that the last run left. -/
def tellsAgain (words : List String) : Nat → World → List (Except UsageError (Telling ExitStatus))
  | 0, _ => []
  | n + 1, w => tells words w :: tellsAgain words n (leaves words w)

theorem around_leaves {w : World} (h : w.Around env git) (words : List String) : (leaves words w).Around env git := by
  rw [leaves]
  cases run words with
  | ok act => exact h.after (act.run w)
  | error e => exact h

section

variable {name : String} (hname : name = "print-version" ∨ name = "resolve") {words : List String}
  (hwords : ∀ word ∈ words, NulFree word)
include hname hwords

theorem tells_eq (henv : env.NulFree) {w v : World} (hw : w.Around env git) (hv : v.Around env git) :
    tells (name :: words) v = tells (name :: words) w := by
  rw [tells, tells]
  cases hact : run (name :: words) with
  | error e => rfl
  | ok act =>
    have hmem : name ∈ resolvingNames := by
      rcases hname with rfl | rfl
      · decide
      · decide
    have hstamp : name ≠ "stamp" := by
      rcases hname with rfl | rfl
      · decide
      · decide
    obtain ⟨given, arguments, kind, hsorted, hkind, rfl⟩ := run_eq_ok hmem hact
    have ho : ∀ directory ∈ (ResolveOptions.ofSettings given).directory, Checkout.Expands directory :=
      fun directory hdirectory =>
        Checkout.expands_of_nulFree (nulFree_directory (spells_of_sort hsorted) hwords directory hdirectory)
    have halike : TellAlike env git (kind.command (.ofSettings given)).perform
        (kind.command (.ofSettings given)).perform :=
      Kind.tellAlike_perform henv ho (Kind.ofWords_ne_stamp hmem hstamp hkind)
    exact congrArg Except.ok (halike v w hv hw)

end

/-! ## A log directory that is a file -/

open World

/-- The world that logs to `logs`, but for a file in the place of that directory. -/
def blocked : World := { loggingTo "logs" with files := { entries := [(["logs"], .file .empty)] } }

end CommandLine
end VersionStamp
