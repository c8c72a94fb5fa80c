/-
What a run leaves behind that logs its messages in one directory.

`Trail` compares the files of two moments: lines were added to the one log file,
a file was put at the place of the output, directories were made, and all else
is as it was. Nothing done is a trail without lines (`Trail.refl`); logging a
message (`trail_record`) and storing the output (`trail_store`) lead from one
trail to the next.
-/
import VersionStamp.Proofs.Logging
import VersionStamp.Proofs.PlainPaths
import VersionStamp.Proofs.StampReadBack

namespace VersionStamp

/-! ## The last component of a path -/

namespace Path

theorem components_append (front rest : String) :
    components (front ++ "/" ++ rest) = components front ++ components rest := by
  have hlist : (front ++ "/" ++ rest).toList = front.toList ++ '/' :: rest.toList := by simp
  rw [components, hlist, Text.Chars.split_append, List.map_append]
  rfl

theorem getLast?_components_join (directory : String) {name : String} (h : '/' ∉ name.toList) :
    (components (join directory name)).getLast? = some name := by
  have hname : components name = [name] := by
    rw [components, Text.Chars.split_of_not_mem h, List.map_singleton, String.ofList_toList]
  have hrelative : isAbsolute name = false := by
    rw [isAbsolute, decide_eq_false_iff_not]
    exact fun hhead => h (List.mem_of_mem_head? hhead)
  rw [join, if_neg (by simp [hrelative])]
  split
  next hends =>
    rcases hends with rfl | hends
    · rw [String.empty_append, hname]
      rfl
    · obtain ⟨front, hfront⟩ := List.getLast?_eq_some_iff.1 hends
      have hdirectory : directory = String.ofList front ++ "/" := by
        rw [← String.toList_inj, hfront, String.toList_append, String.toList_ofList]
        rfl
      rw [hdirectory, components_append, hname, List.getLast?_concat]
  · rw [components_append, hname, List.getLast?_concat]

end Path

namespace FileTree

variable {t t' : FileTree} {here parent p : Place} {path name : String} {before : ByteArray}

theorem enter_name (h : t.enter here name = .ok p) (hname : ¬(name = "" ∨ name = "." ∨ name = "..")) :
    p = here ++ [name] := by
  obtain ⟨-, ⟨hstay, -⟩ | ⟨-, hup, -⟩ | ⟨-, -, -, hp⟩⟩ := enter_eq_ok h
  · exact absurd (hstay.imp_right .inl) hname
  · exact absurd (.inr (.inr hup)) hname
  · exact hp

theorem follow_name (h : t.follow here [name] = .ok p) (hname : ¬(name = "" ∨ name = "." ∨ name = "..")) :
    p = here ++ [name] := by
  simp only [follow] at h
  split at h
  · cases h
  next next hnext =>
    rw [← Except.ok.inj h]
    exact enter_name hnext hname

/-- A path that leads somewhere leads to an entry of its last name. -/
theorem getLast?_of_find (h : t.find here path = .ok p) (hlast : (Path.components path).getLast? = some name)
    (hname : ¬(name = "" ∨ name = "." ∨ name = "..")) : p.getLast? = some name := by
  obtain ⟨-, hfollow⟩ := find_eq_ok_iff.1 h
  obtain ⟨front, hfront⟩ := List.getLast?_eq_some_iff.1 hlast
  rw [hfront] at hfollow
  obtain ⟨mid, -, hmid⟩ := follow_append_eq_ok hfollow
  rw [follow_name hmid hname, List.getLast?_concat]

/-- Where a path leads is where it would be written. -/
theorem Writes.eq_of_find (hw : t.Writes here path parent name before) (h : t.find here path = .ok p) :
    p = parent ++ [name] := by
  obtain ⟨-, hfollow⟩ := find_eq_ok_iff.1 h
  rw [hw.components_eq, follow_append hw.reached] at hfollow
  exact follow_name hfollow hw.named

/-- The octets of the file at a place; none where there is no file. -/
def contentAt (t : FileTree) (p : Place) : ByteArray :=
  match t.get? p with
  | some (.file content) => content
  | _ => .empty

theorem Writes.contentAt_eq (hw : t.Writes here path parent name before) :
    t.contentAt (parent ++ [name]) = before := by
  rw [contentAt]
  rcases hw.content with hfile | ⟨hnone, rfl⟩
  · rw [hfile]
  · rw [hnone]

theorem Writes.keeps_put (hw : t.Writes here path parent name before) (content : ByteArray) :
    t.Keeps (t.put (parent ++ [name]) (.file content)) := FileTree.keeps_put hw.not_directory _

end FileTree

namespace Log

/-- Lines as they stand in the log file. -/
def textOf (lines : List String) : String := String.join (lines.map (· ++ "\n"))

theorem textOf_append (front rest : List String) : textOf (front ++ rest) = textOf front ++ textOf rest := by
  simp [textOf, String.join_append]

theorem textOf_singleton (line : String) : textOf [line] = line ++ "\n" := by
  simp [textOf]

theorem textOf_toUTF8_append (front rest : List String) :
    (textOf (front ++ rest)).toUTF8 = (textOf front).toUTF8 ++ (textOf rest).toUTF8 := by
  rw [textOf_append]
  exact String.toByteArray_append

/-- The last component of a path, once it is absolute, is the name of the log file. -/
def IsNameOf (here : Place) (path : String) : Prop :=
  (Path.components (Location.ofPath here path).text).getLast? = some fileName

instance (here : Place) (path : String) : Decidable (IsNameOf here path) := inferInstanceAs (Decidable (_ = _))

/-- Where the log file of a directory is. -/
def path (logs : String) : String := Path.join logs fileName

theorem getLast?_of_find {t : FileTree} {here p : Place} {logs : String} (h : t.find here (path logs) = .ok p) :
    p.getLast? = some fileName :=
  FileTree.getLast?_of_find h (Path.getLast?_components_join logs (by decide)) (by decide)

/-- Preparing the log directory adds directories, and nothing else happens. -/
theorem prepare_grows (given : String) (w : World) : w.files.Grows (prepare given w).1 := by
  simp only [prepare]
  split
  · exact .refl _
  · have hgrows := w.files.createDirectories_grows w.here (directoryFor w.env given).toList
    split
    next hmade => rwa [hmade] at hgrows
    next hmade => rwa [hmade] at hgrows

/-- All that recording a message does: it makes directories, and adds a line to the log file if it can. -/
theorem record_cases (given message : String) (w : World) :
    directoryFor w.env given = "" ∧ (record given message w).1 = w.files ∨
      directoryFor w.env given ≠ "" ∧ ∃ made, w.files.Grows made ∧
        ((record given message w).1 = made ∨
          made.append w.here (path (directoryFor w.env given)) (message ++ "\n").toUTF8 =
            .ok (record given message w).1) := by
  by_cases hlogs : directoryFor w.env given = ""
  · refine .inl ⟨hlogs, ?_⟩
    simp [record, prepare, hlogs]
  · refine .inr ⟨hlogs, (prepare given w).1, prepare_grows given w, ?_⟩
    simp only [record]
    split
    next made e hmade => exact .inl (by rw [hmade])
    next made directory hmade =>
    have hdirectory := prepare_eq_ok hmade
    subst hdirectory
    rw [if_neg hlogs, hmade]
    split
    next after happend => exact .inr happend
    next => exact .inl rfl

/-- Where no log directory is asked for, nothing is recorded. -/
theorem files_record_of_no_directory {given : String} {w : World} (h : directoryFor w.env given = "") (message : String) :
    (record given message w).1 = w.files := by
  rcases record_cases given message w with ⟨-, hsame⟩ | ⟨hlogs, -⟩
  · exact hsame
  · exact absurd h hlogs

theorem record_keeps (given message : String) (w : World) : w.files.Keeps (record given message w).1 := by
  rcases record_cases given message w with ⟨-, hsame⟩ | ⟨-, made, hgrows, hsame | happend⟩
  · rw [hsame]
    exact (FileTree.Grows.refl _).keeps
  · rw [hsame]
    exact hgrows.keeps
  · obtain ⟨parent, name, before, hw, hput⟩ := FileTree.modify_cases happend
    rw [hput]
    exact hgrows.keeps.trans (hw.keeps_put _)

/-! ## Trails -/

/-- What is left behind between two moments when lines are logged in one directory, and an output is
written if there is a place for one. -/
structure Trail (here : Place) (logs : String) (output : Option Place) (before after : FileTree)
    (lines : List String) : Prop where
  /-- The lines are behind what the log file held. Without a directory there are none. -/
  logged : lines ≠ [] → logs ≠ "" ∧ ∃ p, after.find here (path logs) = .ok p ∧
    after.get? p = some (.file (before.contentAt p ++ (textOf lines).toUTF8))
  /-- All else is as it was, but for the output and new directories; without a directory for the log these
  are on the way to the output. -/
  others : ∀ p, after.get? p = before.get? p ∨ lines ≠ [] ∧ after.find here (path logs) = .ok p ∨ output = some p ∨
    before.get? p = none ∧ after.get? p = some .directory ∧ (logs = "" → ∃ q, output = some q ∧ p <+: q)

namespace Trail

variable {here : Place} {logs : String} {output : Option Place} {before after after' : FileTree} {lines : List String}

theorem refl (here : Place) (logs : String) (output : Option Place) (t : FileTree) : Trail here logs output t t [] where
  logged h := absurd rfl h
  others _ := .inl rfl

/-- A file other than the log file and the output is as it was. -/
theorem get?_eq (h : Trail here logs output before after lines) {p : Place} {content : ByteArray}
    (hp : before.get? p = some (.file content)) (hlast : p.getLast? ≠ some fileName) (houtput : output ≠ some p) :
    after.get? p = some (.file content) := by
  rcases h.others p with hsame | ⟨-, hfind⟩ | hout | ⟨hnone, -⟩
  · rw [hsame, hp]
  · exact absurd (getLast?_of_find hfind) hlast
  · exact absurd hout houtput
  · rw [hp] at hnone
    cases hnone

/-- Directories are made. -/
theorem grow (h : Trail here logs output before after lines) (hgrows : after.Grows after')
    (hway : logs = "" → ∀ p, after'.get? p = after.get? p ∨ ∃ q, output = some q ∧ p <+: q) :
    Trail here logs output before after' lines where
  logged hlines := by
    obtain ⟨hlogs, p, hfind, hfile⟩ := h.logged hlines
    exact ⟨hlogs, p, hgrows.keeps.find hfind, hgrows.get?_eq_some hfile⟩
  others p := by
    rcases hgrows p with hsame | ⟨hnone, hdirectory⟩
    · rw [hsame]
      exact (h.others p).imp_right (Or.imp_left (And.imp_right hgrows.keeps.find))
    · rcases h.others p with hbefore | ⟨hlines, hfind⟩ | hout | ⟨-, hthere, -⟩
      · refine .inr (.inr (.inr ⟨hbefore ▸ hnone, hdirectory, fun hlogs => ?_⟩))
        refine (hway hlogs p).resolve_left fun hsame => ?_
        rw [hdirectory, hnone] at hsame
        cases hsame
      · exact .inr (.inl ⟨hlines, hgrows.keeps.find hfind⟩)
      · exact .inr (.inr (.inl hout))
      · rw [hnone] at hthere
        cases hthere

/-- A line is added to the log file. -/
theorem append (h : Trail here logs output before after lines) (hlogs : logs ≠ "")
    (houtput : ∀ q, output = some q → q.getLast? ≠ some fileName) {line : String}
    (happend : after.append here (path logs) (line ++ "\n").toUTF8 = .ok after') :
    Trail here logs output before after' (lines ++ [line]) := by
  obtain ⟨parent, name, content, hw, rfl⟩ := FileTree.modify_cases happend
  have hfind := hw.find_put (content ++ (line ++ "\n").toUTF8)
  have hlast := getLast?_of_find hfind
  -- What the file held is what it held at first, and the lines so far.
  have hcontent : content = before.contentAt (parent ++ [name]) ++ (textOf lines).toUTF8 := by
    by_cases hlines : lines = []
    · subst hlines
      have hsame : after.get? (parent ++ [name]) = before.get? (parent ++ [name]) := by
        rcases h.others (parent ++ [name]) with hsame | ⟨hlines, -⟩ | hout | ⟨-, hdirectory, -⟩
        · exact hsame
        · exact absurd rfl hlines
        · exact absurd hlast (houtput _ hout)
        · exact absurd hdirectory hw.not_directory
      rw [← hw.contentAt_eq, FileTree.contentAt, FileTree.contentAt, hsame]
      exact ByteArray.append_empty.symm
    · obtain ⟨-, p, hthere, hfile⟩ := h.logged hlines
      obtain rfl := hw.eq_of_find hthere
      rw [← hw.contentAt_eq, FileTree.contentAt, hfile]
  refine ⟨fun _ => ⟨hlogs, _, hfind, ?_⟩, fun p => ?_⟩
  · have htext : (textOf (lines ++ [line])).toUTF8 = (textOf lines).toUTF8 ++ (line ++ "\n").toUTF8 := by
      rw [textOf_toUTF8_append, textOf_singleton]
    rw [FileTree.get?_put_self _ (by simp), hcontent, htext, ByteArray.append_assoc]
  · by_cases hp : p = parent ++ [name]
    · subst hp
      exact .inr (.inl ⟨by simp, hfind⟩)
    · rw [FileTree.get?_put_other _ _ hp]
      rcases h.others p with hsame | ⟨-, hthere⟩ | hrest
      · exact .inl hsame
      · exact absurd (hw.eq_of_find hthere) hp
      · exact .inr (.inr hrest)

/-- A file is put at the place of the output. -/
theorem put (h : Trail here logs output before after lines) {path' name : String} {parent : Place}
    {content : ByteArray} (hw : after.Writes here path' parent name content) (houtput : output = some (parent ++ [name]))
    (hlast : (parent ++ [name]).getLast? ≠ some fileName) (content' : ByteArray) :
    Trail here logs output before (after.put (parent ++ [name]) (.file content')) lines where
  logged hlines := by
    obtain ⟨hlogs, p, hfind, hfile⟩ := h.logged hlines
    have hp : p ≠ parent ++ [name] := by
      rintro rfl
      exact hlast (getLast?_of_find hfind)
    exact ⟨hlogs, p, (hw.keeps_put content').find hfind, by rw [FileTree.get?_put_other _ _ hp, hfile]⟩
  others p := by
    by_cases hp : p = parent ++ [name]
    · subst hp
      exact .inr (.inr (.inl houtput))
    · rw [FileTree.get?_put_other _ _ hp]
      exact (h.others p).imp_right (Or.imp_left (And.imp_right (hw.keeps_put content').find))

end Trail

/-- A message is logged, or lost. -/
theorem trail_record (given message : String) {logs : String} {output : Option Place} {before : FileTree}
    {lines : List String} {w : World} (h : Trail w.here logs output before w.files lines)
    (hlogs : directoryFor w.env given = logs) (houtput : ∀ q, output = some q → q.getLast? ≠ some fileName) :
    ∃ more, more.Sublist [message] ∧
      Trail w.here logs output before (record given message w).1 (lines ++ more) := by
  rcases record_cases given message w with ⟨-, hsame⟩ | ⟨hne, made, hgrows, hdone⟩
  · rw [hsame]
    exact ⟨[], List.nil_sublist _, by rwa [List.append_nil]⟩
  rw [hlogs] at hne hdone
  have hmade : Trail w.here logs output before made lines := h.grow hgrows fun hempty => absurd hempty hne
  rcases hdone with hsame | happend
  · rw [hsame]
    exact ⟨[], List.nil_sublist _, by rwa [List.append_nil]⟩
  · exact ⟨[message], List.Sublist.refl _, hmade.append hne houtput happend⟩

/-- Where the output of a store is: a file is put at its place, in the directories made above it. -/
theorem store_place {path' p : String} {info : VersionInfo} {w : World} (hhere : w.here.Named)
    (hstore : (Stamp.store info path' w).2 = .ok p) :
    ∃ parent name content,
      (w.files.createDirectories w.here (Location.ofPath w.here path').parent.text.toList).1.Writes w.here
          (Location.ofPath w.here path').text parent name content ∧
        (Location.ofPath w.here path').names = parent ++ [name] ∧
        (Stamp.store info path' w).1 =
          (w.files.createDirectories w.here (Location.ofPath w.here path').parent.text.toList).1.put
            (parent ++ [name]) (.file (Properties.render info w.now).toUTF8) := by
  obtain ⟨rfl, hwrite⟩ := Stamp.store_eq_ok hstore
  obtain ⟨parent, name, content, hw, hput⟩ := FileTree.modify_cases hwrite
  have hnamed := Location.named_ofPath hhere path'
  refine ⟨parent, name, content, hw, ?_, hput⟩
  rw [hw.place_eq (Location.plain_text hnamed), Location.startOf_text, Location.names_text hnamed, List.nil_append]

section

variable {path' p : String} {info : VersionInfo} {w : World} (hhere : w.here.Named)
  (hstore : (Stamp.store info path' w).2 = .ok p)
include hhere hstore

theorem get?_store : (Stamp.store info path' w).1.get? (Location.ofPath w.here path').names =
    some (.file (Properties.render info w.now).toUTF8) := by
  obtain ⟨parent, name, content, -, hplace, hput⟩ := store_place hhere hstore
  rw [hput, hplace, FileTree.get?_put_self _ (by simp)]

theorem getLast?_names_ne (hname : ¬IsNameOf w.here path') :
    (Location.ofPath w.here path').names.getLast? ≠ some fileName := by
  obtain ⟨parent, name, content, hw, hplace, -⟩ := store_place hhere hstore
  rw [IsNameOf, hw.components_eq, List.getLast?_concat] at hname
  rwa [hplace, List.getLast?_concat]

/-- The output is stored. -/
theorem trail_store {logs : String} {before : FileTree} {lines : List String} (hname : ¬IsNameOf w.here path')
    (h : Trail w.here logs (some (Location.ofPath w.here path').names) before w.files lines) :
    Trail w.here logs (some (Location.ofPath w.here path').names) before (Stamp.store info path' w).1 lines := by
  have hlast := getLast?_names_ne hhere hstore hname
  obtain ⟨parent, name, content, hw, hplace, hput⟩ := store_place hhere hstore
  have hparent := Location.named_parent (Location.named_ofPath hhere path')
  have hmade := h.grow (w.files.createDirectories_grows w.here _) fun _ q =>
    (FileTree.createDirectories_growsTo hparent w.files w.here q).imp_right fun ⟨_, _, hq⟩ =>
      ⟨_, rfl, hq.trans (List.dropLast_prefix _)⟩
  rw [hput]
  exact hmade.put hw (congrArg some hplace) (hplace ▸ hlast) _

end

end Log
end VersionStamp
