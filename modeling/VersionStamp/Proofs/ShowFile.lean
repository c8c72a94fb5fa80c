/-
What `show` prints of a properties file.

`show_prints_entries_iff`: it prints the entries, or the error, as they are
exactly if the console finds nothing to interpret in them. The lines go through
the console as markup although a file may hold anything:
`tag_in_value_is_not_printed`.
-/
import VersionStamp.Proofs.GivenOptions
import VersionStamp.Proofs.LiteralText
import VersionStamp.Proofs.Quiet
import VersionStamp.Proofs.StampReading

namespace VersionStamp

namespace CommandLine

open VersionStamp.Action Console

/-- An entry on a line of its own. -/
def entryLine (e : String × String) : String := e.1 ++ "=" ++ e.2

theorem onlyPrints_complain (message : String) : OnlyPrints (complain message) :=
  (onlyPrints_print _ _ _).bind fun _ => onlyPrints_pure _

theorem onlyPrints_printEntries (es : List (String × String)) : OnlyPrints (printEntries es) := by
  induction es with
  | nil => exact onlyPrints_pure _
  | cons e es ih => exact (onlyPrints_print _ _ _).bind fun _ => ih

theorem onlyPrints_showFile (path : String) : OnlyPrints (showFile path) := by
  refine onlyPrints_world.bind fun w => ?_
  split
  · exact onlyPrints_complain _
  · exact onlyPrints_fail _
  · exact (onlyPrints_printEntries _).bind fun _ => onlyPrints_pure _

/-! ## Lines one by one -/

theorem quiet_printEntries (es : List (String × String)) : Quiet .errors (printEntries es) := by
  induction es with
  | nil => exact quiet_pure _
  | cons e es ih => exact (quiet_print (by decide) _ _).bind fun _ => ih

/-- The first line is printed if the console can show it, and then come the others. -/
theorem run_printEntries_cons (e : String × String) (es : List (String × String)) (w : World) :
    (printEntries (e :: es)).run w =
      match layout (entryLine e) with
      | .ok shown => (⟨.ok (), w.files, shown ++ "\n", "", []⟩ : Report Unit).andThen ((printEntries es).run w)
      | .error cause => ⟨.error (.console cause), w.files, "", "", []⟩ := by
  show (print .output (entryLine e) >>= fun _ => printEntries es).run w = _
  cases hshown : layout (entryLine e) with
  | ok shown =>
    have hprint : (print .output (entryLine e)).run w = ⟨.ok (), w.files, shown ++ "\n", "", []⟩ := by
      rw [run_print, hshown]
      rfl
    rw [run_bind_ok (by rw [hprint]), hprint, World.after_self _ _ rfl]
  | error cause =>
    have hprint : (print .output (entryLine e)).run w = ⟨.error (.console cause), w.files, "", "", []⟩ := by
      rw [run_print, hshown]
    rw [run_bind_error (by rw [hprint]), hprint]
    rfl

/-- All lines are printed exactly if the console can show each of them. -/
theorem result_printEntries_iff (es : List (String × String)) (w : World) :
    ((printEntries es).run w).result = .ok () ↔ ∀ e ∈ es, Shown (entryLine e) := by
  induction es with
  | nil => exact iff_of_true rfl nofun
  | cons e es ih =>
    rw [run_printEntries_cons, List.forall_mem_cons, ← ih, ← layout_eq_ok_iff]
    cases layout (entryLine e) with
    | ok shown => simp [Report.andThen]
    | error cause => simp

/-- Each line is printed as it is exactly if all of them together are. -/
theorem printEntries_iff {es : List (String × String)} (hes : ∀ e ∈ es, '\n' ∉ (entryLine e).toList) (w : World) :
    ((printEntries es).run w).result = .ok () ∧ ((printEntries es).run w).output = Properties.renderEntries es ↔
      ∀ e ∈ es, Literal (entryLine e) := by
  induction es with
  | nil => exact iff_of_true ⟨rfl, rfl⟩ nofun
  | cons e es ih =>
    obtain ⟨he, hes⟩ := List.forall_mem_cons.1 hes
    have hrender : Properties.renderEntries (e :: es) = entryLine e ++ "\n" ++ Properties.renderEntries es := by
      simp [Properties.renderEntries, entryLine, String.append_assoc]
    rw [run_printEntries_cons, List.forall_mem_cons, ← ih hes, ← layout_eq_self_iff, hrender]
    cases hshown : layout (entryLine e) with
    | ok shown =>
      have hline : shown ++ "\n" ++ ((printEntries es).run w).output =
          entryLine e ++ "\n" ++ Properties.renderEntries es ↔
            shown = entryLine e ∧ ((printEntries es).run w).output = Properties.renderEntries es := by
        simpa [← String.toList_inj] using Text.Chars.append_separator_inj (not_mem_newline_of_layout hshown he) he
      simp only [Report.andThen, hline, Except.ok.injEq]
      tauto
    | error cause => simp

theorem complain_iff (message : String) (w : World) :
    ((complain message).run w).result = .ok .failure ∧ ((complain message).run w).output = "" ∧
      ((complain message).run w).errors = "ERROR: " ++ message ++ "\n" ↔ Literal message := by
  have hfront : ∀ c ∈ "ERROR: ".toList, c ≠ '[' ∧ c ≠ '\\' ∧ c ≠ '\t' ∧ isSilent c = false := by
    simp [isSilent]
  rw [← literal_append_iff hfront, ← layout_eq_self_iff]
  cases hshown : layout ("ERROR: " ++ message) with
  | ok shown =>
    rw [run_complain hshown]
    simp
  | error cause =>
    rw [run_complain_error hshown]
    simp

/-! ## The command -/

theorem run_showFile_ok {path : String} {w : World} {entries : Properties.Entries}
    (h : Stamp.load w path = .ok entries) :
    (showFile path).run w =
      (printEntries entries >>= fun _ => pure .success : Action ExitStatus).run w := by
  rw [showFile, run_world_bind, h]

theorem run_showFile_error {path : String} {w : World} {e : PropertiesError}
    (h : Stamp.load w path = .error (.properties e)) : (showFile path).run w = (complain e.message).run w := by
  rw [showFile, run_world_bind, h]

theorem result_showFile_iff {path : String} {w : World} {entries : Properties.Entries}
    (h : Stamp.load w path = .ok entries) :
    ((showFile path).run w).result = .ok .success ↔ ((printEntries entries).run w).result = .ok () := by
  rw [run_showFile_ok h, result_bind_eq_ok]
  exact ⟨fun ⟨(), hprint, _⟩ => hprint, fun hprint => ⟨(), hprint, rfl⟩⟩

theorem output_showFile {path : String} {w : World} {entries : Properties.Entries}
    (h : Stamp.load w path = .ok entries) :
    ((showFile path).run w).output = ((printEntries entries).run w).output ∧ ((showFile path).run w).errors = "" := by
  rw [run_showFile_ok h]
  refine ⟨?_, (quiet_printEntries entries).bind (fun _ => quiet_pure _) w⟩
  cases hprint : ((printEntries entries).run w).result with
  | ok u =>
    rw [run_bind_ok hprint]
    simp [Report.andThen]
  | error e =>
    rw [run_bind_error hprint]
    rfl

/-- A line of what was read holds no newline. -/
theorem not_mem_newline_entryLine {w : World} {path : String} {entries : Properties.Entries}
    (h : Stamp.load w path = .ok entries) : ∀ e ∈ entries, '\n' ∉ (entryLine e).toList := by
  obtain ⟨content, hparse⟩ := Stamp.parse_of_load h
  intro e he
  obtain ⟨hkey, hvalue⟩ := Properties.parse_entries hparse e he
  have hno : ∀ {s : String}, Text.OneLine s → '\n' ∉ s.toList := fun hs hmem =>
    absurd (hs.unbroken '\n' hmem) (by decide)
  simp [entryLine, hno hkey.oneLine, hno hvalue]

theorem run_show {path : String} (h : path.toList.head? ≠ some '-') :
    run ["show", path] = .ok (showFile path) := by
  have hsort : sort noOptions true [path] = .ok ([], [path]) := sort_of_spells (.argument (.inr h) .nil)
  rw [run, parse_command (by decide), Command.parse, if_neg (by decide), if_neg (by decide), if_neg (by decide),
    if_pos rfl, hsort]
  rfl

/-- **`show` prints what is in the file exactly if the console finds nothing to interpret in it**,
for every path that is no option, every world and every content. It succeeds if the console can show
each entry, and prints the entries as they are if each line is literal; where there are no entries
it fails with the error as it is if that is literal. It never asks git anything, and changes no
file. -/
theorem show_prints_entries_iff {path : String} (hpath : path.toList.head? ≠ some '-') :
    ∃ act, run ["show", path] = .ok act ∧ ∀ w : World,
      (act.run w).queries = [] ∧ (act.run w).files = w.files ∧
      (∀ entries, ((Stamp.read path).run w).result = .ok entries →
        ((act.run w).result = .ok .success ↔ ∀ e ∈ entries, Shown (entryLine e)) ∧
        ((act.run w).result = .ok .success ∧ (act.run w).output = Properties.renderEntries entries ∧
          (act.run w).errors = "" ↔ ∀ e ∈ entries, Literal (entryLine e))) ∧
      ∀ e, ((Stamp.read path).run w).result = .error (.properties e) →
        ((act.run w).result = .ok .failure ∧ (act.run w).output = "" ∧
          (act.run w).errors = "ERROR: " ++ e.message ++ "\n" ↔ Literal e.message) := by
  refine ⟨_, run_show hpath, fun w => ?_⟩
  obtain ⟨hfiles, hqueries⟩ := onlyPrints_showFile path w
  refine ⟨hqueries, hfiles, fun entries hread => ?_, fun e hread => ?_⟩
  · rw [Stamp.run_read] at hread
    have hresult := result_showFile_iff hread
    obtain ⟨houtput, herrors⟩ := output_showFile hread
    refine ⟨hresult.trans (result_printEntries_iff entries w), ?_⟩
    rw [← printEntries_iff (not_mem_newline_entryLine hread) w, hresult, houtput]
    exact ⟨fun ⟨hdone, hprinted, _⟩ => ⟨hdone, hprinted⟩, fun ⟨hdone, hprinted⟩ => ⟨hdone, hprinted, herrors⟩⟩
  · rw [Stamp.run_read] at hread
    rw [run_showFile_error hread]
    exact complain_iff e.message w

/-! ## Two values -/

/-- Brackets alone are no markup. -/
theorem brackets_in_value_are_printed :
    "p".toList.head? ≠ some '-' ∧ ∃ act, run ["show", "p"] = .ok act ∧
      (act.run (.withFile "p" "a = [1]\n! b\nc=\n".toUTF8)).result = .ok .success ∧
      (act.run (.withFile "p" "a = [1]\n! b\nc=\n".toUTF8)).output = "a=[1]\nc=\n" := by
  have hpath : "p".toList.head? ≠ some '-' := by decide
  obtain ⟨act, hrun, hmean⟩ := show_prints_entries_iff hpath
  obtain ⟨-, -, hentries, -⟩ := hmean (.withFile "p" "a = [1]\n! b\nc=\n".toUTF8)
  have hread : ((Stamp.read "p").run (.withFile "p" "a = [1]\n! b\nc=\n".toUTF8)).result =
      .ok [("a", "[1]"), ("c", "")] := by
    rw [Stamp.run_read, Stamp.load_of_holdsFile (World.holdsFile_withFile _), Stamp.entriesOf_toUTF8]
    rfl
  have hliteral : ∀ e ∈ [("a", "[1]"), ("c", "")], Literal (entryLine e) := by
    simp only [← layout_eq_self_iff]
    decide
  obtain ⟨hdone, hprinted, -⟩ := ((hentries _ hread).2).2 hliteral
  exact ⟨hpath, act, hrun, hdone, hprinted⟩

/-- A tag in a value is taken for a style, and is not printed. -/
theorem tag_in_value_is_not_printed :
    "p".toList.head? ≠ some '-' ∧ ∃ act, run ["show", "p"] = .ok act ∧
      ((Stamp.read "p").run (.withFile "p" "a=[b]x\n".toUTF8)).result = .ok [("a", "[b]x")] ∧
      Properties.renderEntries [("a", "[b]x")] = "a=[b]x\n" ∧
      (act.run (.withFile "p" "a=[b]x\n".toUTF8)).result = .ok .success ∧
      (act.run (.withFile "p" "a=[b]x\n".toUTF8)).output = "a=x\n" := by
  have hpath : "p".toList.head? ≠ some '-' := by decide
  have hload : Stamp.load (.withFile "p" "a=[b]x\n".toUTF8) "p" = .ok [("a", "[b]x")] := by
    rw [Stamp.load_of_holdsFile (World.holdsFile_withFile _), Stamp.entriesOf_toUTF8]
    rfl
  have hshown : layout (entryLine ("a", "[b]x")) = .ok "a=x" := by decide
  have hprint : (printEntries [("a", "[b]x")]).run (.withFile "p" "a=[b]x\n".toUTF8) =
      ⟨.ok (), (World.withFile "p" "a=[b]x\n".toUTF8).files, "a=x\n", "", []⟩ := by
    rw [run_printEntries_cons, hshown]
    rfl
  obtain ⟨houtput, -⟩ := output_showFile hload
  refine ⟨hpath, _, run_show hpath, ?_, by decide, ?_, ?_⟩
  · rw [Stamp.run_read, hload]
  · rw [result_showFile_iff hload, hprint]
  · rw [houtput, hprint]

end CommandLine
end VersionStamp
