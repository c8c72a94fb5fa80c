/-
Lines added to a log file, and nothing else done to any file.

`Extended` compares the files of two moments: lines stand behind what the log
file held, and besides that directories were made. Recording a message extends
the log file by it or makes directories at most (`record_extends`); once the log
file is there, it is always extended (`record_of_file`).
-/
import VersionStamp.Proofs.ResolvingRuns
import VersionStamp.Proofs.StandingDirectories

namespace VersionStamp

namespace FileTree

variable {t : FileTree} {here p : Place} {path name : String} {content : ByteArray}

/-- A path that can be written to is written to. -/
theorem Writes.modify {parent : Place} {before : ByteArray} (hw : t.Writes here path parent name before)
    (content : ByteArray → ByteArray) :
    t.modify here path content = .ok (t.put (parent ++ [name]) (.file (content before))) := by
  have htarget : t.target (startOf here path) (Path.components path) = .ok (parent ++ [name], before) := by
    simp only [target, findParent, hw.reached, hw.directory, hw.last]
    rw [if_neg hw.named, if_neg hw.short]
    rcases hw.content with hfile | ⟨hnone, hempty⟩
    · simp only [hfile]
    · simp only [hnone, hempty]
  simp only [FileTree.modify, hw.accepted, htarget, refuse]

/-- A file that a path leads to can be written to, if the path ends at its name. -/
theorem writes_of_find (h : t.find here path = .ok p) (hfile : t.get? p = some (.file content))
    (hlast : (Path.components path).getLast? = some name) (hname : ¬(name = "" ∨ name = "." ∨ name = "..")) :
    ∃ parent, t.Writes here path parent name content ∧ p = parent ++ [name] := by
  obtain ⟨haccept, hfollow⟩ := find_eq_ok_iff.1 h
  have hcomponents : Path.components path = (Path.components path).dropLast ++ [name] := by
    rw [List.dropLast_append_getLast? _ hlast]
  rw [hcomponents] at hfollow
  obtain ⟨parent, hparent, hlook⟩ := follow_append_eq_ok hfollow
  obtain rfl := follow_name hlook hname
  have hshort : ¬tooLong name = true := by
    rw [follow] at hlook
    split at hlook
    · cases hlook
    next hnext =>
      obtain ⟨-, ⟨hstay, -⟩ | ⟨-, hup, -⟩ | ⟨-, hshort, -⟩⟩ := enter_eq_ok hnext
      · exact absurd (hstay.imp_right .inl) hname
      · exact absurd (.inr (.inr hup)) hname
      · exact hshort
  refine ⟨parent, ⟨haccept, hparent, directory_of_follow hlook (by simp), ?_, hname, hshort, .inl hfile⟩, rfl⟩
  rw [List.getLastD_eq_getLast?, hlast, Option.getD_some]

theorem Grows.contentAt {t' : FileTree} (h : t.Grows t') (p : Place) : t'.contentAt p = t.contentAt p := by
  rw [FileTree.contentAt, FileTree.contentAt]
  rcases h p with hsame | ⟨hnone, hdirectory⟩
  · rw [hsame]
  · rw [hnone, hdirectory]

end FileTree

namespace Log

/-- Lines stand in the log file at a place, behind what it held before. All other files are as they were,
and what else is new are directories. -/
structure Extended (here : Place) (logs : String) (p : Place) (before after : FileTree) (lines : List String) :
    Prop where
  /-- The place is that of the log file. -/
  found : after.find here (path logs) = .ok p
  /-- There was a file, or nothing. -/
  was : before.get? p ≠ some .directory
  file : after.get? p = some (.file (before.contentAt p ++ (textOf lines).toUTF8))
  others : ∀ q, q ≠ p → after.get? q = before.get? q ∨ before.get? q = none ∧ after.get? q = some .directory

namespace Extended

variable {here p : Place} {logs : String} {before between after : FileTree} {front rest lines : List String}

theorem trans (h : Extended here logs p before between front) (h' : Extended here logs p between after rest) :
    Extended here logs p before after (front ++ rest) where
  found := h'.found
  was := h.was
  file := by
    have hbetween : between.contentAt p = before.contentAt p ++ (textOf front).toUTF8 := by
      rw [FileTree.contentAt, h.file]
    rw [h'.file, hbetween, textOf_toUTF8_append, ByteArray.append_assoc]
  others q hq := by
    rcases h.others q hq with hsame | ⟨hnone, hmade⟩
    · rw [← hsame]
      exact h'.others q hq
    · rcases h'.others q hq with hsame | ⟨hmissing, -⟩
      · exact .inr ⟨hnone, hsame.trans hmade⟩
      · rw [hmade] at hmissing
        cases hmissing

/-- Directories may be made first. -/
theorem of_grows (h : before.Grows between) (h' : Extended here logs p between after lines) :
    Extended here logs p before after lines where
  found := h'.found
  was hdirectory := h'.was (h.get?_eq_some hdirectory)
  file := by rw [h'.file, h.contentAt]
  others q hq := by
    rcases h q with hsame | ⟨hnone, hmade⟩
    · rw [← hsame]
      exact h'.others q hq
    · rcases h'.others q hq with hsame | ⟨hmissing, -⟩
      · exact .inr ⟨hnone, hsame.trans hmade⟩
      · rw [hmade] at hmissing
        cases hmissing

/-- Directories may be made afterwards. -/
theorem grow (h : Extended here logs p before between lines) (h' : between.Grows after) :
    Extended here logs p before after lines where
  found := h'.keeps.find h.found
  was := h.was
  file := h'.get?_eq_some h.file
  others q hq := by
    rcases h.others q hq with hsame | ⟨hnone, hmade⟩
    · rw [← hsame]
      exact h' q
    · exact .inr ⟨hnone, h'.get?_eq_some hmade⟩

end Extended

/-- The log file is there. -/
def Stands (here : Place) (logs : String) (p : Place) (t : FileTree) : Prop :=
  t.find here (path logs) = .ok p ∧ ∃ content, t.get? p = some (.file content)

theorem Extended.stands {here p : Place} {logs : String} {before after : FileTree} {lines : List String}
    (h : Extended here logs p before after lines) : Stands here logs p after := ⟨h.found, _, h.file⟩

theorem Stands.extended_nil {here p : Place} {logs : String} {t : FileTree} (h : Stands here logs p t) :
    Extended here logs p t t [] := by
  obtain ⟨hfind, content, hfile⟩ := h
  have hcontent : t.contentAt p ++ (textOf []).toUTF8 = content := by
    rw [FileTree.contentAt, hfile]
    exact ByteArray.append_empty
  refine ⟨hfind, ?_, ?_, fun _ _ => .inl rfl⟩
  · rw [hfile]
    simp
  · rw [hfile, hcontent]

variable {here p : Place} {given logs message : String} {t t' : FileTree} {w : World}

theorem extended_of_writes {parent : Place} {name : String} {content : ByteArray}
    (hw : t.Writes here (path logs) parent name content) (line : String) :
    Extended here logs (parent ++ [name]) t (t.put (parent ++ [name]) (.file (content ++ (line ++ "\n").toUTF8)))
      [line] where
  found := hw.find_put _
  was := hw.not_directory
  file := by rw [FileTree.get?_put_self _ (by simp), hw.contentAt_eq, textOf_singleton]
  others _ hq := .inl (FileTree.get?_put_other _ _ hq)

/-- A message that is recorded is added to the log file, or lost with no more than directories made. -/
theorem record_extends (given message : String) (w : World) :
    w.files.Grows (record given message w).1 ∨
      directoryFor w.env given ≠ "" ∧
        ∃ p, Extended w.here (directoryFor w.env given) p w.files (record given message w).1 [message] := by
  rcases record_cases given message w with ⟨-, hsame⟩ | ⟨hlogs, made, hgrows, hsame | happend⟩
  · rw [hsame]
    exact .inl (.refl _)
  · rw [hsame]
    exact .inl hgrows
  · obtain ⟨parent, name, content, hw, hput⟩ := FileTree.modify_cases happend
    rw [hput]
    exact .inr ⟨hlogs, _, (extended_of_writes hw message).of_grows hgrows⟩

/-- The directory of a log file that is there, is there. -/
theorem isDirectory_of_find (hlogs : logs ≠ "") (h : t.find here (path logs) = .ok p) :
    t.isDirectory here logs = true := by
  have hrelative : Path.isAbsolute fileName = false := by decide
  rw [path, Path.join, if_neg (by simp [hrelative])] at h
  rw [FileTree.isDirectory_eq_true_iff]
  split at h
  next hends =>
    obtain ⟨front, hfront⟩ := List.getLast?_eq_some_iff.1 (hends.resolve_left hlogs)
    have hpath : logs ++ fileName = String.ofList (front ++ '/' :: fileName.toList) := by
      rw [← String.toList_inj, String.toList_append, hfront, String.toList_ofList, List.append_assoc,
        List.singleton_append]
    rw [hpath] at h
    obtain ⟨mid, hdirectory, hfind, -⟩ := FileTree.find_front h
    rw [← hfront, String.ofList_toList] at hfind
    exact ⟨mid, hfind, hdirectory⟩
  next =>
    have hpath : logs ++ "/" ++ fileName = String.ofList (logs.toList ++ '/' :: fileName.toList) := by
      rw [← String.toList_inj]
      simp
    rw [hpath] at h
    obtain ⟨mid, hdirectory, -, hfind⟩ := FileTree.find_front h
    have hfind := hfind (by simpa using hlogs)
    rw [String.ofList_toList] at hfind
    exact ⟨mid, hfind, hdirectory⟩

/-- To a log file that is there, a line can always be added. -/
theorem record_of_file {content : ByteArray} (hlogs : directoryFor w.env given ≠ "")
    (hfind : w.files.find w.here (path (directoryFor w.env given)) = .ok p)
    (hfile : w.files.get? p = some (.file content)) (message : String) :
    Extended w.here (directoryFor w.env given) p w.files (record given message w).1 [message] := by
  obtain ⟨parent, hw, rfl⟩ := FileTree.writes_of_find hfind hfile
    (Path.getLast?_components_join _ (by decide)) (by decide)
  have hmade : prepare given w = (w.files, .ok (directoryFor w.env given)) := by
    have hdirectory := isDirectory_of_find hlogs hfind
    rw [← String.ofList_toList (s := directoryFor w.env given)] at hdirectory
    simp only [prepare]
    rw [if_neg hlogs, FileTree.createDirectories_of_isDirectory hdirectory]
  have happend : w.files.append w.here (Path.join (directoryFor w.env given) fileName) (message ++ "\n").toUTF8 =
      .ok (w.files.put (parent ++ [fileName]) (.file (content ++ (message ++ "\n").toUTF8))) := hw.modify _
  have hrecord : record given message w =
      (w.files.put (parent ++ [fileName]) (.file (content ++ (message ++ "\n").toUTF8)), .ok ()) := by
    simp only [record, hmade]
    rw [if_neg hlogs, happend]
  rw [hrecord]
  exact extended_of_writes hw message

/-! ## What logging leaves behind -/

theorem files_log_of_layout_error {style : String} {e : Console.Error} (hshown : Console.layout message style = .error e)
    (stream : Stream) (given : String) (w : World) : ((log message stream given style).run w).files = w.files := by
  have hprint : (Action.print stream message style).run w = ⟨.error (.console e), w.files, "", "", []⟩ := by
    rw [Action.print, hshown, Action.run_fail]
  rw [log, Action.run_bind_error (by rw [hprint]), hprint]
  rfl

end Log
end VersionStamp
