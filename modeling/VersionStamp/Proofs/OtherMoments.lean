/-
The same at another moment.

Two worlds resemble each other (`World.Resembles`) if they log to the same place
and hold the same files, but for the line of a stamp that tells its moment. What is
logged in them and what is stored comes to the same, and they resemble each other
afterwards (`Resembling.log`, `Resembling.store`), whatever else a relation of the
two worlds says.
-/
import VersionStamp.Proofs.MatchingTrees
import VersionStamp.Proofs.SideBySide

namespace VersionStamp

open VersionStamp.Action

/-! ## Stamps of two moments -/

namespace Stamp

/-- The line of a stamp that tells the moment of writing. -/
def momentLine (t : Moment) : String := "# Generated by buildstamp on " ++ t.text ++ "\n"

/-- The same octets, or the same behind a first line that tells the one moment or the other. For one and the same
moment there is no difference (`sameBut_self_iff`). -/
def SameBut (t t' : Moment) (c c' : ByteArray) : Prop :=
  c = c' ∨ ∃ rest, c = (momentLine t).toUTF8 ++ rest ∧ c' = (momentLine t').toUTF8 ++ rest

variable {t t' : Moment} {c c' : ByteArray}

theorem sameBut_self_iff : SameBut t t c c' ↔ c = c' := by
  constructor
  · intro h
    obtain h | ⟨rest, rfl, rfl⟩ := h
    · exact h
    · rfl
  · exact .inl

theorem SameBut.append (h : SameBut t t' c c') (d : ByteArray) : SameBut t t' (c ++ d) (c' ++ d) := by
  obtain rfl | ⟨rest, rfl, rfl⟩ := h
  · exact .inl rfl
  · exact .inr ⟨rest ++ d, ByteArray.append_assoc, ByteArray.append_assoc⟩

theorem sameBut_render (t t' : Moment) (info : VersionInfo) :
    SameBut t t' (Properties.render info t).toUTF8 (Properties.render info t').toUTF8 :=
  .inr ⟨(Properties.renderEntries (Properties.entriesOf info)).toUTF8, String.toByteArray_append,
    String.toByteArray_append⟩

end Stamp

/-! ## Worlds that resemble each other -/

/-- The log directory of the environment, the working directory and the files are the same, but for the line
of a stamp that tells the moment. -/
structure World.Resembles (w v : World) : Prop where
  logs : w.env.text Environment.logDirectory = v.env.text Environment.logDirectory
  here : w.here = v.here
  files : w.files.SameUpTo (Stamp.SameBut w.now v.now) v.files

variable {w v : World}

theorem Log.prepare_resembles (h : w.Resembles v) (given : String) :
    ∃ t t' result, prepare given w = (t, result) ∧ prepare given v = (t', result) ∧
      t.SameUpTo (Stamp.SameBut w.now v.now) t' := by
  have hdirectory : directoryFor w.env given = directoryFor v.env given := by rw [directoryFor, directoryFor, h.logs]
  simp only [prepare, hdirectory, h.here]
  by_cases hnone : directoryFor v.env given = ""
  · rw [if_pos hnone, if_pos hnone]
    exact ⟨_, _, _, rfl, rfl, h.files⟩
  · rw [if_neg hnone, if_neg hnone]
    obtain ⟨t, t', result, ht, ht', hsame⟩ := h.files.createDirectories v.here (directoryFor v.env given).toList
    rw [ht, ht']
    cases result with
    | ok u => exact ⟨t, t', _, rfl, rfl, hsame⟩
    | error e => exact ⟨t, t', _, rfl, rfl, hsame⟩

theorem Log.record_resembles (h : w.Resembles v) (given message : String) :
    ∃ t t' result, record given message w = (t, result) ∧ record given message v = (t', result) ∧
      t.SameUpTo (Stamp.SameBut w.now v.now) t' := by
  obtain ⟨t, t', result, ht, ht', hsame⟩ := prepare_resembles h given
  rw [record, record, ht, ht', h.here]
  cases result with
  | error e => exact ⟨t, t', _, rfl, rfl, hsame⟩
  | ok directory =>
    dsimp only
    by_cases hnone : directory = ""
    · rw [if_pos hnone, if_pos hnone]
      exact ⟨t, t', _, rfl, rfl, hsame⟩
    · rw [if_neg hnone, if_neg hnone, FileTree.append, FileTree.append]
      obtain ⟨e, he, he'⟩ | ⟨s, s', hs, hs', hadded⟩ := hsame.modify (.inl rfl)
        (fun _ _ hc => Stamp.SameBut.append hc (message ++ "\n").toUTF8) v.here (Path.join directory fileName)
      · rw [he, he']
        exact ⟨t, t', _, rfl, rfl, hsame⟩
      · rw [hs, hs']
        exact ⟨s, s', _, rfl, rfl, hadded⟩

/-- What is stored is the same but for the moment. -/
theorem Stamp.store_resembles (h : w.Resembles v) (info : VersionInfo) (path : String) :
    ∃ t t' result, store info path w = (t, result) ∧ store info path v = (t', result) ∧
      t.SameUpTo (SameBut w.now v.now) t' := by
  obtain ⟨t, t', result, ht, ht', hsame⟩ :=
    h.files.createDirectories v.here (Location.ofPath v.here path).parent.text.toList
  simp only [store, h.here, ht, ht']
  cases result with
  | error e => exact ⟨t, t', _, rfl, rfl, hsame⟩
  | ok u =>
    dsimp only
    rw [FileTree.write, FileTree.write]
    obtain ⟨e, he, he'⟩ | ⟨s, s', hs, hs', hstored⟩ := hsame.modify (.inl rfl)
      (fun _ _ _ => sameBut_render w.now v.now info) v.here (Location.ofPath v.here path).text
    · rw [he, he']
      exact ⟨t, t', _, rfl, rfl, hsame⟩
    · rw [hs, hs']
      exact ⟨s, s', _, rfl, rfl, hstored⟩

/-! ## Steps in such worlds -/

/-- The relation is between worlds that resemble each other, and it is not about their files otherwise. -/
structure Resembling (S : World → World → Prop) : Prop where
  resembles : ∀ {w v}, S w v → w.Resembles v
  withFiles : ∀ {w v} {s t : FileTree}, S w v → s.SameUpTo (Stamp.SameBut w.now v.now) t →
    S { w with files := s } { v with files := t }

namespace Resembling

variable {S : World → World → Prop}

theorem record (hS : Resembling S) (given message : String) :
    SideBySide S (onFiles (Log.record given message)) (onFiles (Log.record given message)) := by
  refine sideBySide_onFiles fun w v h => ?_
  obtain ⟨t, t', result, ht, ht', hsame⟩ := Log.record_resembles (hS.resembles h) given message
  rw [ht, ht']
  exact ⟨rfl, hS.withFiles h hsame⟩

theorem log (hS : Resembling S) (message : String) (stream : Stream) (given style : String) :
    SideBySide S (Log.log message stream given style) (Log.log message stream given style) := by
  refine (sideBySide_print _ _ _).bind fun _ => (hS.record given message).bind fun result => ?_
  split
  · exact sideBySide_fail _
  · exact sideBySide_pure _

theorem store (hS : Resembling S) (info : VersionInfo) (path : String) :
    SideBySide S (onFiles (Stamp.store info path)) (onFiles (Stamp.store info path)) := by
  refine sideBySide_onFiles fun w v h => ?_
  obtain ⟨t, t', result, ht, ht', hsame⟩ := Stamp.store_resembles (hS.resembles h) info path
  rw [ht, ht']
  exact ⟨rfl, hS.withFiles h hsame⟩

end Resembling
end VersionStamp
