/-
What reading a properties file comes to, whatever is in it.

`read_result` goes through all cases: octets that are the UTF-8 form of a text
give what that text parses to, with its ends of lines as they were written;
any other octets are refused with the length of their longest front that is
UTF-8; and where there is no file the operating system's cause is given. Each
of the errors is one of properties.
-/
import VersionStamp.Proofs.Logging
import VersionStamp.Proofs.StampReadBack
import VersionStamp.Proofs.Utf8Front

namespace VersionStamp

/-- The path leads to a file with these octets. -/
def FileTree.HoldsFile (t : FileTree) (here : Place) (path : String) (octets : ByteArray) : Prop :=
  ∃ p, t.find here path = .ok p ∧ t.get? p = some (.file octets)

namespace FileTree

theorem read_eq_ok_iff {t : FileTree} {here : Place} {path : String} {octets : ByteArray} :
    t.read here path = .ok octets ↔ t.HoldsFile here path octets := by
  rw [read, HoldsFile]
  cases hfind : t.find here path with
  | error e => simp
  | ok p =>
    simp only [Except.ok.injEq, exists_eq_left']
    split <;> simp_all

theorem find_ne_embeddedNul {path : String} (h : Text.NulFree path) (t : FileTree) (here : Place) :
    t.find here path ≠ .error .embeddedNul := by
  rw [find]
  split
  next e he =>
    rintro ⟨⟩
    exact accept_ne_embeddedNul h he
  · exact refuse_ne_embeddedNul _ _

theorem read_ne_embeddedNul {path : String} (h : Text.NulFree path) (t : FileTree) (here : Place) :
    t.read here path ≠ .error .embeddedNul := by
  rw [read]
  split
  next e he =>
    rintro ⟨⟩
    exact find_ne_embeddedNul h t here he
  · split <;> simp

theorem read_of_isDirectory {t : FileTree} {here : Place} {path : String} (h : t.isDirectory here path = true) :
    t.read here path = .error (.refused .isDirectory path) := by
  rw [isDirectory] at h
  rw [read]
  split at h
  next p hp =>
    simp only [hp]
    split at h
    next hdir => simp only [hdir]
    next => cases h
  next => cases h

end FileTree

namespace Stamp

open Properties

@[simp] theorem run_read (path : String) (w : World) :
    (read path).run w = ⟨load w path, w.files, "", "", []⟩ := by
  rw [read, Action.run_world_bind]
  cases load w path with
  | ok entries => rw [Action.ofExcept_ok, Action.run_pure]
  | error e => rw [Action.ofExcept_error, Action.run_fail]

theorem load_of_holdsFile {w : World} {path : String} {octets : ByteArray}
    (h : w.files.HoldsFile w.here path octets) :
    load w path = (Stamp.entriesOf path octets).mapError .properties := by
  rw [load, FileTree.read_eq_ok_iff.2 h]
  dsimp only
  cases Stamp.entriesOf path octets <;> rfl

theorem parse_of_load {w : World} {path : String} {entries : Entries} (h : load w path = .ok entries) :
    ∃ content, parse content = .ok entries := by
  simp only [load, Stamp.entriesOf] at h
  split at h
  · cases h
  · cases h
  · split at h
    · cases h
    next hentries =>
      split at hentries
      · cases hentries
      · split at hentries
        · cases hentries
        next hparse =>
          cases hentries
          cases h
          exact ⟨_, hparse⟩

/-- What is not there, or is no file, is unreadable for the cause that the operating system gives. -/
theorem load_of_no_file {w : World} {path : String} (hpath : Text.NulFree path)
    (h : ∀ octets, ¬w.files.HoldsFile w.here path octets) :
    ∃ cause, load w path = .error (.properties (.unreadable path cause)) ∧
      (w.files.isDirectory w.here path = true → cause = .isDirectory) := by
  rw [load]
  cases hread : w.files.read w.here path with
  | ok octets => exact absurd (FileTree.read_eq_ok_iff.1 hread) (h octets)
  | error e =>
    cases e with
    | embeddedNul => exact absurd hread (FileTree.read_ne_embeddedNul hpath w.files w.here)
    | refused cause path' =>
      refine ⟨cause, rfl, fun hdir => ?_⟩
      rw [FileTree.read_of_isDirectory hdir] at hread
      cases hread
      rfl

/-- **Reading a properties file, whatever its content**, for every world and every path without NUL.
The text in a file is parsed as if it had been handed over untouched, so neither the entries nor the
number and the text of a bad line depend on how lines end; octets that are no text are refused at
the end of their longest front that is; and a directory or nothing at all is unreadable. No other
fault comes out. -/
theorem read_result {path : String} (hpath : Text.NulFree path) (w : World) :
    (∀ octets, w.files.HoldsFile w.here path octets →
      (∀ content : String, octets = content.toUTF8 →
        ((read path).run w).result = (parse content).mapError fun line => .properties (.badLine line)) ∧
      (¬octets.IsValidUTF8 →
        ∃ n, ((read path).run w).result = .error (.properties (.notUtf8 path n)) ∧
          Text.Utf8.IsLongestFront octets n)) ∧
    ((∀ octets, ¬w.files.HoldsFile w.here path octets) →
      ∃ cause, ((read path).run w).result = .error (.properties (.unreadable path cause)) ∧
        (w.files.isDirectory w.here path = true → cause = .isDirectory)) := by
  rw [run_read]
  refine ⟨fun octets hfile => ⟨fun content hcontent => ?_, fun hinvalid => ?_⟩, load_of_no_file hpath⟩
  · dsimp only
    rw [load_of_holdsFile hfile, hcontent, entriesOf_toUTF8]
    cases parse content <;> rfl
  · obtain ⟨n, hdecode, hfront⟩ := Text.Utf8.decode_of_not_isValidUTF8 hinvalid
    refine ⟨n, ?_, hfront⟩
    dsimp only
    rw [load_of_holdsFile hfile, Stamp.entriesOf, hdecode]
    rfl

end Stamp

/-! ## One file in the root -/

/-- A world with one file, in the root. -/
def World.withFile (name : String) (octets : ByteArray) : World where
  files := { entries := [([name], .file octets)] }
  now := .utc 0
  installation := "/"

theorem World.holdsFile_withFile (octets : ByteArray) :
    (World.withFile "p" octets).files.HoldsFile (World.withFile "p" octets).here "p" octets :=
  ⟨["p"], rfl, rfl⟩

/-- A file that is cut off in the middle of a character is refused where that character starts. In
one that mixes ends of lines, carriage return and line feed together end one line. -/
theorem Stamp.cut_off_character_is_refused :
    Text.NulFree "p" ∧
      ((read "p").run (.withFile "p" ⟨#[0x6B, 0x3D, 0xE2, 0x82]⟩)).result = .error (.properties (.notUtf8 "p" 2)) ∧
      ((read "p").run (.withFile "p" "k=v\r\n!\u2028x\r".toUTF8)).result =
        .error (.properties (.badLine ⟨3, "x"⟩)) := by
  have hpath : Text.NulFree "p" := by decide
  obtain ⟨hfile, -⟩ := read_result hpath (.withFile "p" ⟨#[0x6B, 0x3D, 0xE2, 0x82]⟩)
  obtain ⟨n, hresult, hfront⟩ := (hfile _ (World.holdsFile_withFile _)).2 (by decide)
  have hle : n ≤ 2 :=
    (show ∀ m ≤ 4, ((ByteArray.mk #[0x6B, 0x3D, 0xE2, 0x82]).extract 0 m).IsValidUTF8 → m ≤ 2 by decide)
      n hfront.le_size hfront.valid
  have hge : 2 ≤ n := hfront.longest 2 (by decide) (by decide)
  obtain rfl : n = 2 := by omega
  refine ⟨hpath, hresult, ?_⟩
  obtain ⟨hfile, -⟩ := read_result hpath (.withFile "p" "k=v\r\n!\u2028x\r".toUTF8)
  rw [(hfile _ (World.holdsFile_withFile _)).1 _ rfl]
  rfl

end VersionStamp
