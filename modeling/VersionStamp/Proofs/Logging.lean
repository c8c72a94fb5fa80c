/-
Logging fails only if the console does.

A path without NUL always reaches the operating system, which may refuse it,
and that is what logging passes over. So with such paths `result_log` leaves
nothing to fail but the console, and `result_resolve` says the same of a
version that is resolved aloud.
-/
import Mathlib.Data.List.TakeWhile
import VersionStamp.Log
import VersionStamp.Proofs.Resolution
import VersionStamp.Proofs.TreeGrowth

namespace VersionStamp

/-- A text that a path may be for the operating system. -/
def Text.NulFree (s : String) : Prop := '\x00' ∉ s.toList

instance (s : String) : Decidable (Text.NulFree s) := inferInstanceAs (Decidable (_ ∉ _))

/-- An environment as a process has one. -/
def Environment.NulFree (env : Environment) : Prop := ∀ name value, env.get? name = some value → Text.NulFree value

open Text (NulFree)

theorem Environment.NulFree.text {env : Environment} (h : env.NulFree) (name : String) :
    Text.NulFree (env.text name) := by
  rw [Environment.text]
  cases hv : env.get? name with
  | some value => exact h name value hv
  | none => exact show Text.NulFree "" by decide

theorem Environment.nulFree_singleton {value : String} (h : Text.NulFree value) (name : String) :
    Environment.NulFree [(name, value)] := by
  intro other value' hvalue
  rw [Ledger.get?] at hvalue
  split at hvalue
  · obtain rfl := Option.some.inj hvalue
    exact h
  · cases hvalue

/-- The log directory of the settings is that of the environment, without blanks at its ends. -/
theorem Settings.nulFree_logDirectory {s : Settings} {env : Environment} (hs : Settings.ofEnvironment env = .ok s)
    (henv : env.NulFree) : NulFree s.logDirectory := by
  rw [(Settings.reads_ofEnvironment hs).logDirectory, NulFree, Text.toList_trim]
  exact fun hmem => henv.text _ ((Text.Chars.trim_sublist _).subset hmem)

theorem Path.nulFree_join {directory path : String} (hd : NulFree directory) (hp : NulFree path) :
    NulFree (Path.join directory path) := by
  rw [Path.join]
  split
  · exact hp
  · split
    · simpa [NulFree] using ⟨hd, hp⟩
    · simpa [NulFree] using ⟨hd, hp⟩

namespace FileTree

theorem accept_ne_embeddedNul {path : String} (h : NulFree path) : accept path ≠ .error .embeddedNul := by
  have hnot : ¬path.toList.contains '\x00' = true := by simpa [NulFree] using h
  rw [accept, if_neg hnot]
  split
  · simp
  · split <;> simp

theorem refuse_ne_embeddedNul {α : Type} (path : String) (x : Except Refusal α) :
    refuse path x ≠ .error .embeddedNul := by
  cases x <;> simp [refuse]

theorem modify_ne_embeddedNul {path : String} (h : NulFree path) (t : FileTree) (here : Place)
    (content : ByteArray → ByteArray) : t.modify here path content ≠ .error .embeddedNul := by
  rw [modify]
  split
  next e he =>
    rintro ⟨⟩
    exact accept_ne_embeddedNul h he
  · split
    next e he =>
      rintro ⟨⟩
      exact refuse_ne_embeddedNul _ _ he
    next => simp

theorem makeDirectory_ne_embeddedNul {path : String} (h : NulFree path) (t : FileTree) (here : Place) :
    t.makeDirectory here path ≠ .error .embeddedNul := by
  rw [makeDirectory]
  split
  next e he =>
    rintro ⟨⟩
    exact accept_ne_embeddedNul h he
  · exact refuse_ne_embeddedNul _ _

theorem ensureDirectory_ne_embeddedNul {path : String} (h : NulFree path) (t : FileTree) (here : Place) :
    (t.ensureDirectory here path).2 ≠ .error .embeddedNul := by
  rw [ensureDirectory]
  split
  · nofun
  next hnul => exact absurd hnul (makeDirectory_ne_embeddedNul h t here)
  · split <;> nofun

theorem createDirectories_ne_embeddedNul {path : List Char} (h : '\x00' ∉ path) (t : FileTree) (here : Place) :
    (t.createDirectories here path).2 ≠ .error .embeddedNul := by
  have hself : NulFree (String.ofList path) := by simpa [NulFree] using h
  fun_induction createDirectories t here path with
  | case1 | case3 => simp
  | case2 | case4 | case6 => exact ensureDirectory_ne_embeddedNul hself _ _
  | case5 path up _ _ t' e _ hup ih =>
    have habove : '\x00' ∉ up.1 := fun hmem => h ((Path.Chars.isPrefix_above path).subset hmem)
    have ih := ih habove (by simpa [NulFree] using habove)
    rwa [hup] at ih

end FileTree

namespace Log

theorem nulFree_directoryFor {given : String} {env : Environment} (hgiven : NulFree given) (henv : env.NulFree) :
    NulFree (directoryFor env given) := by
  rw [directoryFor]
  split
  · exact henv.text _
  · exact hgiven

theorem prepare_ne_embeddedNul {given : String} {w : World} (hlogs : NulFree (directoryFor w.env given)) :
    (prepare given w).2 ≠ .error .embeddedNul := by
  have hmade := FileTree.createDirectories_ne_embeddedNul hlogs w.files w.here
  simp only [prepare]
  split
  · nofun
  · split
    next => nofun
    next t e he =>
      rw [he] at hmade
      rintro ⟨⟩
      exact hmade rfl

theorem prepare_eq_ok {given directory : String} {w : World} {t : FileTree}
    (h : prepare given w = (t, .ok directory)) :
    directory = directoryFor w.env given := by
  simp only [prepare] at h
  split at h
  · cases h; rfl
  · split at h <;> cases h
    rfl

theorem record_ne_embeddedNul {given : String} {w : World} (hlogs : NulFree (directoryFor w.env given))
    (message : String) : (record given message w).2 ≠ .error .embeddedNul := by
  have hprepare := prepare_ne_embeddedNul hlogs
  rw [record]
  split
  next t e he =>
    rw [he] at hprepare
    rintro ⟨⟩
    exact hprepare rfl
  next t directory hdirectory =>
    split
    · nofun
    · have hpath : NulFree (Path.join directory fileName) := by
        rw [prepare_eq_ok hdirectory]
        exact Path.nulFree_join hlogs (by decide)
      split
      · nofun
      next e he =>
        rintro ⟨⟩
        exact FileTree.modify_ne_embeddedNul hpath _ _ _ he

/-- What is recorded makes no difference to whether it can be. -/
theorem result_record_eq (given message message' : String) (w : World) :
    (record given message w).2 = (record given message' w).2 := by
  simp only [record]
  split
  · rfl
  next t directory _ =>
    by_cases hnone : directory = ""
    · rw [if_pos hnone, if_pos hnone]
    · rw [if_neg hnone, if_neg hnone]
      simp only [FileTree.append, FileTree.modify]
      cases FileTree.accept (Path.join directory fileName) with
      | error e => rfl
      | ok u =>
        cases FileTree.refuse (Path.join directory fileName)
          (t.target (FileTree.startOf w.here (Path.join directory fileName))
            (Path.components (Path.join directory fileName))) with
        | error e => rfl
        | ok found => rfl

/-- A message that the console shows is logged without a fault, unless there is a NUL in the path. -/
theorem result_log_of_layout {message style shown : String} (hshown : Console.layout message style = .ok shown)
    (stream : Stream) (given : String) (w : World) :
    ((log message stream given style).run w).result =
      match (record given message w).2 with
      | .error .embeddedNul => .error (.file .embeddedNul)
      | _ => .ok () := by
  have hprint : ((Action.print stream message style).run w).result = .ok () := by
    rw [Action.print, hshown]
    cases stream <;> rfl
  have hafter : w.after ((Action.print stream message style).run w) = w :=
    World.after_self _ _ (Action.onlyPrints_print stream message style w).1
  rw [log, Action.run_bind_ok hprint, hafter, Report.andThen, Action.run_bind_ok (by rw [Action.run_onFiles])]
  simp only [Report.andThen, Action.run_onFiles]
  cases (record given message w).2 with
  | ok u => rfl
  | error e =>
    cases e with
    | embeddedNul => rfl
    | refused cause path => rfl

/-- One that it does not show is not logged. -/
theorem result_log_of_layout_error {message style : String} {e : Console.Error}
    (hshown : Console.layout message style = .error e) (stream : Stream) (given : String) (w : World) :
    ((log message stream given style).run w).result = .error (.console e) := by
  have hprint : (Action.print stream message style).run w = ⟨.error (.console e), w.files, "", "", []⟩ := by
    rw [Action.print, hshown, Action.run_fail]
  rw [log, Action.run_bind_error (by rw [hprint]), hprint]
  rfl

theorem result_log_eq_ok_iff {message given style : String} {stream : Stream} {w : World} :
    ((log message stream given style).run w).result = .ok () ↔
      (∃ shown, Console.layout message style = .ok shown) ∧ (record given message w).2 ≠ .error .embeddedNul := by
  cases hshown : Console.layout message style with
  | error e =>
    rw [result_log_of_layout_error hshown]
    exact iff_of_false nofun fun h => nomatch h.1
  | ok shown =>
    rw [result_log_of_layout hshown]
    split
    next hnul => exact iff_of_false nofun fun h => h.2 hnul
    next hnul => exact iff_of_true rfl ⟨⟨shown, rfl⟩, hnul⟩

/-- Whether a message is logged without a fault is up to the console alone, if there are no NULs. -/
theorem result_log {given : String} {w : World} (hlogs : NulFree (directoryFor w.env given)) (message : String) (stream : Stream) (style : String) :
    ((log message stream given style).run w).result =
      match Console.layout message style with
      | .ok _ => .ok ()
      | .error e => .error (.console e) := by
  cases hshown : Console.layout message style with
  | error e => exact result_log_of_layout_error hshown stream given w
  | ok shown => exact result_log_eq_ok_iff.2 ⟨⟨shown, hshown⟩, record_ne_embeddedNul hlogs message⟩

end Log

namespace Resolver

/-- What is resolved aloud is what is resolved without a word, as long as the console can show the summary. -/
theorem result_resolve {r : Resolver} {release : Bool} {w : World} {info : VersionInfo}
    (hlog : NulFree r.logDirectory) (henv : w.env.NulFree) (hinfo : ((r.compute release).run w).result = .ok info)
    (stream : Stream) :
    ((r.resolve release stream).run w).result =
      match Console.layout info.summary "" with
      | .ok _ => .ok info
      | .error e => .error (.console e) := by
  rw [resolve, Action.run_bind_ok hinfo, Report.andThen]
  have hlogged := Log.result_log (w := w.after ((r.compute release).run w)) (Log.nulFree_directoryFor hlog henv)
    info.summary stream ""
  cases hshown : Console.layout info.summary "" with
  | error e =>
    rw [hshown] at hlogged
    rw [Action.run_bind_error hlogged]
    rfl
  | ok shown =>
    rw [hshown] at hlogged
    rw [Action.run_bind_ok hlogged]
    rfl

/-- A version is resolved aloud if it is resolved without a word, and its summary is logged. -/
theorem result_resolve_eq_ok_iff {r : Resolver} {release : Bool} {stream : Stream} {w : World} {info : VersionInfo} :
    ((r.resolve release stream).run w).result = .ok info ↔
      ((r.compute release).run w).result = .ok info ∧ (∃ shown, Console.layout info.summary "" = .ok shown) ∧
        (Log.record r.logDirectory info.summary w).2 ≠ .error .embeddedNul := by
  have hafter : w.after ((r.compute release).run w) = w := World.after_self _ _ (r.compute_silent release w).1
  rw [resolve, Action.result_bind_eq_ok, hafter]
  constructor
  · intro h
    obtain ⟨info', hinfo, hrest⟩ := h
    obtain ⟨_, hlog, hpure⟩ := Action.result_bind_eq_ok.1 hrest
    obtain rfl := Except.ok.inj hpure
    exact ⟨hinfo, Log.result_log_eq_ok_iff.1 hlog⟩
  · intro h
    obtain ⟨hinfo, hlog⟩ := h
    exact ⟨info, hinfo, Action.result_bind_eq_ok.2 ⟨(), Log.result_log_eq_ok_iff.2 hlog, rfl⟩⟩

end Resolver
end VersionStamp
