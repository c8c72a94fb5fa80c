/-
What a process of git amounts to, whatever it does.

`answer_of_process`: there is an answer to every query unless the process breaks
off in a way that nobody expects. A text is found exactly where the process ended
well, both its streams were UTF-8, and it wrote more than blanks; all else is an
absence that is put into words (`Absence.reason_eq_empty_iff`). An exit code that is
not nought is named with the first line of what git had to say, so the words stay on
one line (`unbroken_reason_exitCode`).
-/
import VersionStamp.Proofs.GitOutcomes
import VersionStamp.Proofs.PropertiesCodec

namespace VersionStamp

namespace Text

/-- What is decoded are the octets of texts. -/
theorem Utf8.decode_eq_ok_iff {octets : ByteArray} {s : String} : decode octets = .ok s ↔ octets = s.toUTF8 := by
  constructor
  · intro h
    rw [decode, String.fromUTF8?] at h
    split at h
    next hsome =>
      obtain rfl := Except.ok.inj h
      split at hsome
      · obtain rfl := Option.some.inj hsome
        rfl
      · cases hsome
    next => cases h
  · rintro rfl
    exact decode_toByteArray s

/-- No carriage return is left. -/
theorem Chars.not_mem_unifyBreaks (cs : List Char) : '\r' ∉ unifyBreaks cs := by
  fun_induction unifyBreaks cs with
  | case1 => simp
  | case2 cs ih => simpa using ih
  | case3 c cs _ ih =>
    by_cases hc : c = '\r'
    · simpa [hc] using ih
    · simpa [hc, Ne.symm hc] using ih

theorem toString_int_unbroken (n : Int) : Unbroken (toString n).toList := by
  cases n with
  | ofNat n => exact toString_unbroken n
  | negSucc n =>
    have htext : toString (Int.negSucc n) = "-" ++ toString (n + 1) := rfl
    rw [htext, String.toList_append, unbroken_append]
    exact ⟨by decide, toString_unbroken (n + 1)⟩

end Text

/-- A text behind one that is not empty. -/
theorem Text.append_ne_empty {s : String} (h : s ≠ "") (t : String) : s ++ t ≠ "" :=
  fun hempty => h (String.append_eq_empty_iff.1 hempty).1

namespace Git

open Text (Unbroken append_ne_empty trim unifyBreaks)

/-! ## Reasons -/

/-- Every cause is put into words, unless it brings its own and has none. -/
theorem Absence.reason_eq_empty_iff {cause : Absence} : cause.reason = "" ↔ cause = .stated "" := by
  cases cause with
  | noExecutable => exact iff_of_false (show "git executable not found" ≠ "" by decide) nofun
  | timedOut limit => exact iff_of_false (append_ne_empty (append_ne_empty (by decide) _) _) nofun
  | undecodable => exact iff_of_false (show "git output is not valid UTF-8" ≠ "" by decide) nofun
  | failed text => exact iff_of_false (append_ne_empty (by decide) text) nofun
  | refused text => exact iff_of_false (append_ne_empty (by decide) text) nofun
  | exitCode code line =>
    refine iff_of_false ?_ nofun
    cases line with
    | none => exact append_ne_empty (by decide) _
    | some line => exact append_ne_empty (append_ne_empty (append_ne_empty (by decide) _) _) _
  | emptyOutput => exact iff_of_false (show "empty output" ≠ "" by decide) nofun
  | stated reason => exact ⟨congrArg Absence.stated, Absence.stated.inj⟩

theorem reason_exitCode_none (code : Int) : (Absence.exitCode code none).reason = "exit code " ++ toString code := rfl

theorem reason_exitCode_some (code : Int) (line : String) :
    (Absence.exitCode code (some line)).reason = "exit code " ++ toString code ++ ": " ++ line := rfl

theorem firstLine_cases (cs : List Char) :
    Text.Chars.trim cs = [] ∧ firstLine cs = none ∨
      ∃ line rest, Text.Chars.lines (Text.Chars.trim cs) = line :: rest ∧ firstLine cs = some (String.ofList line) := by
  rw [firstLine]
  cases hlines : Text.Chars.lines (Text.Chars.trim cs) with
  | nil =>
    refine .inl ⟨?_, rfl⟩
    by_contra hne
    exact Text.Chars.lines_ne_nil hne hlines
  | cons line rest => exact .inr ⟨line, rest, rfl, rfl⟩

/-- The words for an exit code stay on one line. -/
theorem unbroken_reason_exitCode (code : Int) (cs : List Char) :
    Unbroken (Absence.exitCode code (firstLine cs)).reason.toList := by
  have hword : Unbroken "exit code ".toList ∧ Unbroken ": ".toList := by decide
  obtain ⟨-, hnone⟩ | ⟨line, rest, hlines, hsome⟩ := firstLine_cases cs
  · rw [hnone, reason_exitCode_none, String.toList_append, Text.unbroken_append]
    exact ⟨hword.1, Text.toString_int_unbroken code⟩
  · have hline : Unbroken line :=
      Text.Chars.unbroken_of_mem_lines (Text.Chars.trim cs) line (hlines ▸ List.mem_cons_self)
    rw [hsome, reason_exitCode_some]
    simp only [String.toList_append, Text.unbroken_append, String.toList_ofList]
    exact ⟨⟨⟨hword.1, Text.toString_int_unbroken code⟩, hword.2⟩, hline⟩

/-! ## Endings -/

namespace Ending

variable {e : Ending} {text written said : String} {limit : Binary64}

theorem wrote_iff :
    e.Wrote text ↔ ∃ written said : String, e = .exited 0 written.toUTF8 said.toUTF8 ∧
      text = trim (unifyBreaks written) ∧ text ≠ "" := by
  simp only [Wrote, Text.Utf8.decode_eq_ok_iff]
  constructor
  · rintro ⟨output, errors, written, said, rfl, rfl, rfl, htext, hne⟩
    exact ⟨written, said, rfl, htext, hne⟩
  · rintro ⟨written, said, rfl, htext, hne⟩
    exact ⟨_, _, written, said, rfl, rfl, rfl, htext, hne⟩

theorem Wrote.no_carriageReturn (h : e.Wrote text) : '\r' ∉ text.toList := by
  obtain ⟨written, -, -, rfl, -⟩ := wrote_iff.1 h
  rw [Text.toList_trim, Text.toList_unifyBreaks]
  exact fun hmem => Text.Chars.not_mem_unifyBreaks _ ((Text.Chars.trim_sublist _).subset hmem)

/-- A process gives a cause of its own choice never. -/
theorem answer_ne_stated (reason : String) : e.answer limit ≠ .ok (.absent (.stated reason)) := by
  cases e with
  | exited code output errors =>
    rw [answer]
    split
    · rw [exitAnswer]
      split
      · simp
      · split <;> simp
    · simp
  | _ => simp [answer]

theorem answer_of_code {code : Int} (hcode : code ≠ 0) (written said : String) (limit : Binary64) :
    (Ending.exited code written.toUTF8 said.toUTF8).answer limit =
      .ok (.absent (.exitCode code (firstLine (unifyBreaks said).toList))) := by
  have houtput := streamText_eq_some.2 ⟨written, Text.Utf8.decode_toByteArray written, rfl⟩
  have herrors := streamText_eq_some.2 ⟨said, Text.Utf8.decode_toByteArray said, rfl⟩
  simp only [answer, String.toUTF8_eq_toByteArray, houtput, herrors]
  rw [exitAnswer, if_pos hcode]

end Ending

/-- The query for the description of a checkout at `/repo`. -/
def describeRepo : Query := ⟨.process, "/repo", describeArguments, Settings.initial.gitTimeout⟩

/-- A world without files, where a description of any checkout ends in the given way. -/
def describeEnds (e : Ending) : World where
  git := { endings := [("describe", e)] }
  now := .utc 0
  installation := "/"

theorem foreseen_describeEnds {e : Ending} (h : ∀ text, e ≠ .broken text) :
    ((describeEnds e).git.outcome "describe").Foreseen := h

end Git
end VersionStamp
