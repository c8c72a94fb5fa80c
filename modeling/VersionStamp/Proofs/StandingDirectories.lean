/-
Directories that are there already.

`createDirectories_of_isDirectory`: asked for a directory that is there, the
making of directories changes nothing and succeeds. A path that leads somewhere
leads somewhere at each of its slashes (`find_front`), so the way up ends at
once, and the directory itself cannot be made a second time.
-/
import VersionStamp.Proofs.LogTrail

namespace VersionStamp

namespace Path.Chars

/-- What stands in front of the last component ends before a slash, or with one. -/
theorem split_front {cs : List Char} (h : (split cs).1 ≠ []) :
    ∃ front rest, cs = front ++ '/' :: rest ∧ ((split cs).1 = front ∨ (split cs).1 = front ++ ['/']) := by
  rcases front_cases cs with hnone | ⟨front, hfront, hcs⟩
  · simp only [split, hnone] at h
    exact absurd rfl h
  generalize (cs.reverse.takeWhile (· ≠ '/')).reverse = last at hcs
  have hbare : front.reverse.takeWhile (· = '/') ++ front.reverse.dropWhile (· = '/') = front.reverse :=
    List.takeWhile_append_dropWhile
  have hslashes : ∀ c ∈ front.reverse.takeWhile (· = '/'), c = '/' := by
    intro c hc
    simpa using List.mem_takeWhile_imp hc
  have hdrop : (front ++ ['/']).reverse.dropWhile (· = '/') = front.reverse.dropWhile (· = '/') := by
    rw [List.reverse_append, List.reverse_singleton, List.singleton_append, List.dropWhile_cons_of_pos (by simp)]
  simp only [split, hfront, hdrop]
  split
  · exact ⟨front, last, hcs, .inr rfl⟩
  · generalize front.reverse.takeWhile (· = '/') = slashes at hbare hslashes
    generalize front.reverse.dropWhile (· = '/') = bare at hbare
    have hparts : front = bare.reverse ++ slashes.reverse := by
      rw [← List.reverse_append, hbare, List.reverse_reverse]
    cases hrev : slashes.reverse with
    | nil => exact ⟨bare.reverse, last, by rw [hcs, hparts, hrev, List.append_nil], .inl rfl⟩
    | cons c more =>
      obtain rfl : c = '/' := hslashes c (List.mem_reverse.1 (hrev ▸ List.mem_cons_self))
      exact ⟨bare.reverse, more ++ '/' :: last, by rw [hcs, hparts, hrev]; simp, .inl rfl⟩

end Path.Chars

namespace FileTree

variable {t : FileTree} {here p : Place}

theorem accept_eq_ok_iff {path : String} :
    accept path = .ok () ↔ '\x00' ∉ path.toList ∧ path.utf8ByteSize < 4096 ∧ path ≠ "" := by
  rw [accept]
  split
  next h => simp_all
  next h =>
  split
  next h' => simp; omega
  next h' =>
  split <;> simp_all

theorem accept_front {front rest : List Char} (h : accept (String.ofList (front ++ rest)) = .ok ()) (hne : front ≠ []) :
    accept (String.ofList front) = .ok () := by
  rw [accept_eq_ok_iff] at h ⊢
  obtain ⟨hnul, hshort, -⟩ := h
  rw [String.ofList_append, String.utf8ByteSize_append] at hshort
  refine ⟨?_, by omega, by simpa using hne⟩
  rw [String.toList_ofList] at hnul ⊢
  exact fun hmem => hnul (List.mem_append_left _ hmem)

theorem components_front (front rest : List Char) :
    Path.components (String.ofList (front ++ '/' :: rest)) =
      Path.components (String.ofList front) ++ Path.components (String.ofList rest) := by
  simp only [Path.components, String.toList_ofList, Text.Chars.split_append, List.map_append]

/-- Whoever goes on from a place is in a directory. -/
theorem directory_of_follow {cs : List String} (h : t.follow here cs = .ok p) (hne : cs ≠ []) :
    t.get? here = some .directory := by
  obtain ⟨c, cs, rfl⟩ := List.exists_cons_of_ne_nil hne
  simp only [follow] at h
  split at h
  · cases h
  next hnext => exact (enter_eq_ok hnext).1

/-- A path that leads somewhere leads to a directory at each of its slashes, with the slash and without. -/
theorem find_front {front rest : List Char} (h : t.find here (String.ofList (front ++ '/' :: rest)) = .ok p) :
    ∃ mid, t.get? mid = some .directory ∧ t.find here (String.ofList (front ++ ['/'])) = .ok mid ∧
      (front ≠ [] → t.find here (String.ofList front) = .ok mid) := by
  obtain ⟨haccept, hfollow⟩ := find_eq_ok_iff.1 h
  have hstart : startOf here (String.ofList (front ++ '/' :: rest)) = startOf here (String.ofList (front ++ ['/'])) := by
    rw [List.append_cons]
    exact startOf_front (by simp) rest
  rw [hstart, components_front] at hfollow
  obtain ⟨mid, hmid, hrest⟩ := follow_append_eq_ok hfollow
  have hdirectory := directory_of_follow hrest (Path.components_ne_nil _)
  have hstay : t.follow mid (Path.components (String.ofList [])) = .ok mid := by
    simp [Path.components, Text.Chars.split, follow, enter, hdirectory]
  refine ⟨mid, hdirectory, find_eq_ok_iff.2 ⟨?_, ?_⟩, fun hne => find_eq_ok_iff.2 ⟨accept_front haccept hne, ?_⟩⟩
  · rw [List.append_cons] at haccept
    exact accept_front haccept (by simp)
  · rw [components_front, follow_append hmid, hstay]
  · rwa [← startOf_front hne ['/']]

/-- A path that leads somewhere does so too without its last component. -/
theorem find_split {path : List Char} (hne : (Path.Chars.split path).1 ≠ [])
    (h : t.find here (String.ofList path) = .ok p) :
    ∃ mid, t.find here (String.ofList (Path.Chars.split path).1) = .ok mid := by
  obtain ⟨front, rest, hpath, hfront⟩ := Path.Chars.split_front hne
  rw [hpath] at h
  obtain ⟨mid, -, hslash, hbare⟩ := find_front h
  rcases hfront with hfront | hfront
  · rw [hfront] at hne ⊢
    exact ⟨mid, hbare hne⟩
  · rw [hfront]
    exact ⟨mid, hslash⟩

theorem find_above {path : List Char} (hne : (Path.Chars.above path).1 ≠ [])
    (h : t.find here (String.ofList path) = .ok p) :
    ∃ mid, t.find here (String.ofList (Path.Chars.above path).1) = .ok mid := by
  unfold Path.Chars.above at hne ⊢
  split at hne
  next hlast =>
    rw [if_pos hlast]
    have hsplit : (Path.Chars.split path).1 ≠ [] := by
      intro hnil
      rw [hnil] at hne
      exact hne rfl
    obtain ⟨mid, hmid⟩ := find_split hsplit h
    exact find_split hne hmid
  next hlast =>
    rw [if_neg hlast]
    exact find_split hne h

/-! ## Making a directory that is there -/

theorem isDirectory_eq_true_iff {path : String} :
    t.isDirectory here path = true ↔ ∃ p, t.find here path = .ok p ∧ t.get? p = some .directory := by
  rw [isDirectory]
  cases t.find here path with
  | error e => simp
  | ok p =>
    cases hp : t.get? p with
    | none => simp [hp]
    | some e => cases e <;> simp [hp]

/-- Where a path leads somewhere, nothing is made. -/
theorem makeAt_of_follow {components : List String} (h : t.follow here components = .ok p) (t' : FileTree) :
    t.makeAt here (withoutTrailing components) ≠ .ok t' := by
  intro hmade
  obtain ⟨parent, name, hparent, hname, -, hnone, -⟩ := makeAt_eq_ok hmade
  obtain ⟨hreached, -, hlast⟩ := findParent_eq_ok hparent
  have hconcat := Path.dropLast_append_last hlast fun hempty => hname (.inl hempty)
  rw [← withoutTrailing_append components, ← hconcat, List.append_assoc, follow_append hreached, List.singleton_append,
    follow] at h
  split at h
  · cases h
  next next hnext =>
    obtain ⟨-, ⟨hstay, -⟩ | ⟨-, hup, -⟩ | ⟨-, -, hthere, -⟩⟩ := enter_eq_ok hnext
    · exact hname (hstay.imp_right .inl)
    · exact hname (.inr (.inr hup))
    · rw [hnone] at hthere
      cases hthere

theorem ensureDirectory_of_isDirectory {path : String} (h : t.isDirectory here path = true) :
    t.ensureDirectory here path = (t, .ok ()) := by
  obtain ⟨p, hfind, -⟩ := isDirectory_eq_true_iff.1 h
  obtain ⟨haccept, hfollow⟩ := find_eq_ok_iff.1 hfind
  have hrefused : ∃ r, t.makeDirectory here path = .error (.refused r path) := by
    simp only [makeDirectory, haccept]
    cases hmade : t.makeAt (startOf here path) (withoutTrailing (Path.components path)) with
    | ok t' => exact absurd hmade (makeAt_of_follow hfollow t')
    | error r => exact ⟨r, rfl⟩
  obtain ⟨r, hr⟩ := hrefused
  simp only [ensureDirectory, hr]
  rw [if_pos h]

/-- Directories that are there are not made. -/
theorem createDirectories_of_isDirectory {path : List Char} (h : t.isDirectory here (String.ofList path) = true) :
    t.createDirectories here path = (t, .ok ()) := by
  obtain ⟨p, hfind, -⟩ := isDirectory_eq_true_iff.1 h
  have hstands : ¬((Path.Chars.above path).1 ≠ [] ∧ (Path.Chars.above path).2 ≠ [] ∧
      t.holds here (String.ofList (Path.Chars.above path).1) = false) := by
    intro hup
    obtain ⟨mid, hmid⟩ := find_above hup.1 hfind
    have hmissing := hup.2.2
    simp only [holds, hmid] at hmissing
    cases hmissing
  unfold createDirectories
  simp only [dif_neg hstands]
  exact ensureDirectory_of_isDirectory h

end FileTree
end VersionStamp
