/-
What a file holds after it has been written.

`modify_cases` says all that a successful write does: it follows the path to a
directory and puts one file there. `Keeps.follow`: a path that leads somewhere
still does when a file is put where no directory was, so `read_modify`: the
same path then reads exactly what was written.
-/
import VersionStamp.Files.Tree

namespace VersionStamp

theorem Path.components_ne_nil (path : String) : Path.components path ≠ [] := by
  simp [Path.components, Text.Chars.split_ne_nil]

/-- The last component behind the others. -/
theorem Path.dropLast_append_getLastD {components : List String} (h : components ≠ []) :
    components.dropLast ++ [components.getLastD ""] = components := by
  rw [List.getLastD_eq_getLast?, List.getLast?_eq_some_getLast h, Option.getD_some, List.dropLast_concat_getLast]

theorem Path.dropLast_append_last {components : List String} {name : String} (h : components.getLastD "" = name)
    (hne : name ≠ "") : components.dropLast ++ [name] = components := by
  have hnil : components ≠ [] := by
    rintro rfl
    exact hne h.symm
  rw [← h]
  exact Path.dropLast_append_getLastD hnil

namespace FileTree

/-- A path that can be written to: it ends at a name in a directory, and there is a file of that
name, or nothing. `before` is what the file holds. -/
structure Writes (t : FileTree) (here : Place) (path : String) (parent : Place) (name : String)
    (before : ByteArray) : Prop where
  accepted : accept path = .ok ()
  reached : t.follow (startOf here path) (Path.components path).dropLast = .ok parent
  directory : t.get? parent = some .directory
  last : (Path.components path).getLastD "" = name
  named : ¬ (name = "" ∨ name = "." ∨ name = "..")
  short : ¬ tooLong name = true
  content : t.get? (parent ++ [name]) = some (.file before) ∨ t.get? (parent ++ [name]) = none ∧ before = .empty

theorem findParent_eq_ok {t : FileTree} {here parent : Place} {components : List String} {name : String}
    (h : t.findParent here components = .ok (parent, name)) :
    t.follow here components.dropLast = .ok parent ∧ t.get? parent = some .directory ∧
      components.getLastD "" = name := by
  simp only [findParent] at h
  split at h
  · cases h
  next p hp =>
  split at h
  next hdir =>
    cases h
    exact ⟨hp, hdir, rfl⟩
  · cases h
  · cases h

theorem modify_cases {t t' : FileTree} {here : Place} {path : String} {content : ByteArray → ByteArray}
    (h : t.modify here path content = .ok t') :
    ∃ parent name before, t.Writes here path parent name before ∧
      t' = t.put (parent ++ [name]) (.file (content before)) := by
  simp only [modify] at h
  split at h
  · cases h
  next haccept =>
  split at h
  · cases h
  next p before htarget =>
  cases h
  simp only [refuse] at htarget
  split at htarget
  case h_2 => cases htarget
  next hsome =>
  cases htarget
  simp only [target] at hsome
  split at hsome
  · cases hsome
  next parent name hparent =>
  obtain ⟨hreached, hdir, hlast⟩ := findParent_eq_ok hparent
  split at hsome
  · cases hsome
  next hnamed =>
  split at hsome
  · cases hsome
  next hshort =>
  split at hsome
  · cases hsome
  next hfile =>
    cases hsome
    exact ⟨parent, name, _, ⟨haccept, hreached, hdir, hlast, hnamed, hshort, .inl hfile⟩, rfl⟩
  next hnone =>
    cases hsome
    exact ⟨parent, name, _, ⟨haccept, hreached, hdir, hlast, hnamed, hshort, .inr ⟨hnone, rfl⟩⟩, rfl⟩

/-! ## Following a path afterwards -/

theorem follow_append {t : FileTree} {here mid : Place} {cs : List String} (h : t.follow here cs = .ok mid)
    (ds : List String) : t.follow here (cs ++ ds) = t.follow mid ds := by
  induction cs generalizing here with
  | nil =>
    obtain rfl : here = mid := by simpa [follow] using h
    rfl
  | cons c cs ih =>
    simp only [follow, List.cons_append] at h ⊢
    split at h
    · cases h
    · exact ih h

theorem enter_eq_ok {t : FileTree} {here next : Place} {c : String} (h : t.enter here c = .ok next) :
    t.get? here = some .directory ∧
      ((c = "" ∨ c = ".") ∧ next = here ∨ ¬ (c = "" ∨ c = ".") ∧ c = ".." ∧ next = here.dropLast ∨
        ¬ (c = "" ∨ c = "." ∨ c = "..") ∧ ¬ tooLong c = true ∧ (t.get? (here ++ [c])).isSome = true ∧
          next = here ++ [c]) := by
  simp only [enter] at h
  split at h
  · cases h
  · cases h
  next hdir =>
  refine ⟨hdir, ?_⟩
  split at h
  next hstay => cases h; exact .inl ⟨hstay, rfl⟩
  next hstay =>
  split at h
  next hup => cases h; exact .inr (.inl ⟨hstay, hup, rfl⟩)
  next hup =>
  split at h
  · cases h
  next hshort =>
  split at h
  next hthere =>
    cases h
    exact .inr (.inr ⟨fun hc => hc.elim (fun h => hstay (.inl h)) fun hc => hc.elim (fun h => hstay (.inr h)) hup,
      hshort, hthere, rfl⟩)
  · cases h

theorem enter_of_isSome {t : FileTree} {here : Place} {c : String} (hdir : t.get? here = some .directory)
    (hnamed : ¬ (c = "" ∨ c = "." ∨ c = "..")) (hshort : ¬ tooLong c = true)
    (hthere : (t.get? (here ++ [c])).isSome = true) : t.enter here c = .ok (here ++ [c]) := by
  simp only [not_or] at hnamed
  simp only [enter, hdir]
  rw [if_neg (by simp [hnamed]), if_neg hnamed.2.2, if_neg hshort, if_pos hthere]

/-- Directories stay directories, and no entry is lost. -/
structure Keeps (t t' : FileTree) : Prop where
  directory : ∀ p, t.get? p = some .directory → t'.get? p = some .directory
  entry : ∀ p, (t.get? p).isSome = true → (t'.get? p).isSome = true

/-- So it is when an entry is put where no directory was. -/
theorem keeps_put {t : FileTree} {p : Place} (hp : t.get? p ≠ some .directory) (e : Entry) : t.Keeps (t.put p e) where
  directory q hq := by rw [get?_put_other t e (by rintro rfl; exact hp hq), hq]
  entry q hq := by
    by_cases h : q = p
    · subst h
      by_cases hroot : q = []
      · simp [get?, hroot]
      · rw [get?_put_self t hroot]
        rfl
    · rwa [get?_put_other t e h]

theorem Keeps.trans {t t' t'' : FileTree} (h : t.Keeps t') (h' : t'.Keeps t'') : t.Keeps t'' where
  directory p hp := h'.directory p (h.directory p hp)
  entry p hp := h'.entry p (h.entry p hp)

/-- A step into a place is still possible. -/
theorem Keeps.enter {t t' : FileTree} (hk : t.Keeps t') {here next : Place} {c : String}
    (h : t.enter here c = .ok next) : t'.enter here c = .ok next := by
  obtain ⟨hdir, hcase⟩ := enter_eq_ok h
  have hdir' := hk.directory here hdir
  rcases hcase with ⟨hstay, rfl⟩ | ⟨hstay, hup, rfl⟩ | ⟨hnamed, hshort, hthere, rfl⟩
  · simp only [FileTree.enter, hdir', if_pos hstay]
  · simp only [FileTree.enter, hdir', if_neg hstay, if_pos hup]
  · exact enter_of_isSome hdir' hnamed hshort (hk.entry _ hthere)

theorem Keeps.follow {t t' : FileTree} (hk : t.Keeps t') {here p : Place} {cs : List String}
    (h : t.follow here cs = .ok p) : t'.follow here cs = .ok p := by
  induction cs generalizing here with
  | nil => exact h
  | cons c cs ih =>
    simp only [FileTree.follow] at h ⊢
    split at h
    · cases h
    next next hnext =>
    rw [hk.enter hnext]
    exact ih h

/-! ## Reading -/

theorem Writes.not_directory {t : FileTree} {here parent : Place} {path name : String} {before : ByteArray}
    (h : t.Writes here path parent name before) : t.get? (parent ++ [name]) ≠ some .directory := by
  rcases h.content with hc | ⟨hc, -⟩ <;> simp [hc]

theorem Writes.components_eq {t : FileTree} {here parent : Place} {path name : String} {before : ByteArray}
    (h : t.Writes here path parent name before) :
    Path.components path = (Path.components path).dropLast ++ [name] :=
  (Path.dropLast_append_last h.last fun hempty => h.named (.inl hempty)).symm

/-- The path leads to the file that was put. -/
theorem Writes.find_put {t : FileTree} {here parent : Place} {path name : String} {before : ByteArray}
    (h : t.Writes here path parent name before) (after : ByteArray) :
    (t.put (parent ++ [name]) (.file after)).find here path = .ok (parent ++ [name]) := by
  have hkeeps := keeps_put h.not_directory (.file after)
  have hreached := hkeeps.follow h.reached
  have hdir := hkeeps.directory parent h.directory
  have hthere : ((t.put (parent ++ [name]) (.file after)).get? (parent ++ [name])).isSome = true := by
    rw [get?_put_self t (by simp)]
    rfl
  simp only [find, h.accepted]
  rw [h.components_eq, follow_append hreached, follow, enter_of_isSome hdir h.named h.short hthere]
  rfl

/-- What was written is read back by the same path. -/
theorem read_modify {t t' : FileTree} {here : Place} {path : String} {content : ByteArray → ByteArray}
    (h : t.modify here path content = .ok t') :
    ∃ parent name before, t.Writes here path parent name before ∧ t'.read here path = .ok (content before) := by
  obtain ⟨parent, name, before, hw, rfl⟩ := modify_cases h
  refine ⟨parent, name, before, hw, ?_⟩
  simp only [read, hw.find_put]
  rw [get?_put_self t (by simp)]

theorem read_write {t t' : FileTree} {here : Place} {path : String} {content : ByteArray}
    (h : t.write here path content = .ok t') : t'.read here path = .ok content := by
  obtain ⟨_, _, _, -, hread⟩ := read_modify h
  exact hread

end FileTree
end VersionStamp
