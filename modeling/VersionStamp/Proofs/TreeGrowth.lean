/-
Trees that grow by directories.

`createDirectories_grows`: making directories leaves every entry as it was and
adds nothing but directories, whether it comes to its end or not. What could be
read before can be read afterwards (`Grows.read`).
-/
import VersionStamp.Files.Directories
import VersionStamp.Proofs.ReadAfterWrite

namespace VersionStamp.FileTree

variable {t t' t'' : FileTree}

/-- Every entry is as it was, and what is new are directories. -/
def Grows (t t' : FileTree) : Prop :=
  ∀ p, t'.get? p = t.get? p ∨ t.get? p = none ∧ t'.get? p = some .directory

theorem Grows.refl (t : FileTree) : t.Grows t := fun _ => .inl rfl

theorem Grows.trans (h : t.Grows t') (h' : t'.Grows t'') : t.Grows t'' := by
  intro p
  rcases h p with hp | ⟨hnone, hdir⟩
  · rw [← hp]
    exact h' p
  · rcases h' p with hp' | ⟨hnone', -⟩
    · exact .inr ⟨hnone, hp'.trans hdir⟩
    · rw [hdir] at hnone'
      cases hnone'

theorem Grows.get?_eq_some (h : t.Grows t') {p : Place} {e : Entry} (hp : t.get? p = some e) : t'.get? p = some e := by
  rcases h p with hp' | ⟨hnone, -⟩
  · rw [hp', hp]
  · rw [hp] at hnone
    cases hnone

theorem Grows.keeps (h : t.Grows t') : t.Keeps t' where
  directory _ hp := h.get?_eq_some hp
  entry p hp := by
    obtain ⟨e, he⟩ := Option.isSome_iff_exists.1 hp
    rw [h.get?_eq_some he]
    rfl

theorem find_eq_ok_iff {here p : Place} {path : String} :
    t.find here path = .ok p ↔ accept path = .ok () ∧ t.follow (startOf here path) (Path.components path) = .ok p := by
  simp only [FileTree.find]
  cases haccept : accept path with
  | error e => simp
  | ok u => cases hfollow : t.follow (startOf here path) (Path.components path) <;> simp [refuse]

theorem Keeps.find (h : t.Keeps t') {here p : Place} {path : String} (hp : t.find here path = .ok p) :
    t'.find here path = .ok p := by
  rw [find_eq_ok_iff] at hp ⊢
  exact hp.imp_right h.follow

theorem Grows.read (h : t.Grows t') {here : Place} {path : String} {content : ByteArray}
    (hread : t.read here path = .ok content) : t'.read here path = .ok content := by
  simp only [FileTree.read] at hread ⊢
  split at hread
  · cases hread
  next p hp =>
  rw [h.keeps.find hp]
  dsimp only
  split at hread
  next hfile =>
    rw [h.get?_eq_some hfile]
    exact hread
  · cases hread
  · cases hread

/-! ## Making directories -/

theorem grows_put_directory {p : Place} (h : t.get? p = none) : t.Grows (t.put p .directory) := by
  intro q
  by_cases hq : q = p
  · subst hq
    have hroot : q ≠ [] := by
      rintro rfl
      simp [get?] at h
    exact .inr ⟨h, get?_put_self t hroot _⟩
  · exact .inl (get?_put_other t _ hq)

theorem makeAt_eq_ok {here : Place} {components : List String} (h : t.makeAt here components = .ok t') :
    ∃ parent name, t.findParent here components = .ok (parent, name) ∧ ¬(name = "" ∨ name = "." ∨ name = "..") ∧
      ¬tooLong name = true ∧ t.get? (parent ++ [name]) = none ∧ t' = t.put (parent ++ [name]) .directory := by
  simp only [makeAt] at h
  split at h
  · cases h
  next parent name hparent =>
  split at h
  · cases h
  next hname =>
  split at h
  · cases h
  next hshort =>
  split at h
  · cases h
  next hthere =>
    cases h
    exact ⟨parent, name, hparent, hname, hshort, by simpa using hthere, rfl⟩

theorem makeDirectory_eq_ok {here : Place} {path : String} (h : t.makeDirectory here path = .ok t') :
    accept path = .ok () ∧ t.makeAt (startOf here path) (withoutTrailing (Path.components path)) = .ok t' := by
  simp only [makeDirectory] at h
  split at h
  · cases h
  next haccept => cases hmade : t.makeAt (startOf here path) (withoutTrailing (Path.components path)) with
    | error e =>
      rw [hmade] at h
      cases h
    | ok made =>
      rw [hmade] at h
      cases h
      exact ⟨haccept, rfl⟩

/-- Either nothing is done, or the directory that the path names is made. -/
theorem ensureDirectory_cases (t : FileTree) (here : Place) (path : String) :
    (t.ensureDirectory here path).1 = t ∨
      t.makeAt (startOf here path) (withoutTrailing (Path.components path)) = .ok (t.ensureDirectory here path).1 := by
  unfold ensureDirectory
  split
  next t' hmade => exact .inr (makeDirectory_eq_ok hmade).2
  next => exact .inl rfl
  next => split <;> exact .inl rfl

theorem ensureDirectory_grows (t : FileTree) (here : Place) (path : String) :
    t.Grows (t.ensureDirectory here path).1 := by
  rcases ensureDirectory_cases t here path with h | h
  · rw [h]
    exact .refl t
  · obtain ⟨parent, name, -, -, -, hnone, hput⟩ := makeAt_eq_ok h
    rw [hput]
    exact grows_put_directory hnone

/-- Directories are added, and nothing else happens. -/
theorem createDirectories_grows (t : FileTree) (here : Place) (path : List Char) :
    t.Grows (t.createDirectories here path).1 := by
  fun_induction createDirectories t here path with
  | case1 path up _ _ t' _ hup _ ih | case3 path up _ _ t' _ hup _ ih | case5 path up _ _ t' _ _ hup ih =>
    rw [hup] at ih
    exact ih
  | case2 path up _ _ t' _ hup _ ih | case4 path up _ _ t' _ hup _ ih =>
    rw [hup] at ih
    exact ih.trans (ensureDirectory_grows t' here _)
  | case6 => exact ensureDirectory_grows _ _ _

end VersionStamp.FileTree
