/-
Directories made together with those above them.

The path is taken as it is written: the directory above is the path less its
last component, and is made first if it is not there. Directories made on the
way stay when a later step fails.
-/
import VersionStamp.Files.Tree

namespace VersionStamp

namespace Path.Chars

theorem length_split_le (cs : List Char) :
    (split cs).1.length + (split cs).2.length ≤ cs.length := by
  have h : (cs.reverse.dropWhile (· ≠ '/')).length + (cs.reverse.takeWhile (· ≠ '/')).length
      = cs.length := by
    rw [Nat.add_comm, ← List.length_append, List.takeWhile_append_dropWhile, List.length_reverse]
  have hb : ∀ l : List Char, (l.dropWhile (· = '/')).length ≤ l.length :=
    fun l => (List.dropWhile_sublist _).length_le
  simp only [split]
  split
  · simp only [List.length_reverse]; omega
  · have := hb (cs.reverse.dropWhile (· ≠ '/')).reverse.reverse
    simp only [List.length_reverse, List.reverse_reverse] at this ⊢
    omega

theorem isPrefix_split (cs : List Char) : (split cs).1 <+: cs := by
  have hfront : (cs.reverse.dropWhile (· ≠ '/')).reverse <+: cs := by
    simpa using List.reverse_prefix.2 (List.dropWhile_suffix (· ≠ '/') (l := cs.reverse))
  have hbare : ∀ front : List Char, (front.reverse.dropWhile (· = '/')).reverse <+: front := by
    intro front
    simpa using List.reverse_prefix.2 (List.dropWhile_suffix (· = '/') (l := front.reverse))
  simp only [split]
  split
  · exact hfront
  · exact (hbare _).trans hfront

/-- The path of the directory above and the last component, slashes at the end left out. -/
def above (cs : List Char) : List Char × List Char :=
  if (split cs).2 = [] then split (split cs).1 else split cs

theorem isPrefix_above (cs : List Char) : (above cs).1 <+: cs := by
  unfold above
  split
  · exact (isPrefix_split _).trans (isPrefix_split cs)
  · exact isPrefix_split cs

theorem length_above_lt {cs : List Char} (h : (above cs).2 ≠ []) :
    (above cs).1.length < cs.length := by
  have h0 := length_split_le cs
  have h1 := length_split_le (split cs).1
  have hpos : 0 < (above cs).2.length := List.length_pos_iff.2 h
  unfold above at hpos ⊢
  split at hpos <;> rename_i hs <;> simp only [hs, if_true, if_false] at hpos ⊢ <;> omega

end Path.Chars

namespace FileTree

/-- Makes the directory, if it is not already there. -/
def ensureDirectory (t : FileTree) (here : Place) (path : String) :
    FileTree × Except FileError Unit :=
  match t.makeDirectory here path with
  | .ok t' => (t', .ok ())
  | .error .embeddedNul => (t, .error .embeddedNul)
  | .error (.refused r p) =>
    if t.isDirectory here path then (t, .ok ()) else (t, .error (.refused r p))

/-- Makes the directory and those above it, as far as they are not already there. -/
def createDirectories (t : FileTree) (here : Place) (path : List Char) :
    FileTree × Except FileError Unit :=
  let up := Path.Chars.above path
  if h : up.1 ≠ [] ∧ up.2 ≠ [] ∧ t.holds here (String.ofList up.1) = false then
    have := Path.Chars.length_above_lt h.2.1
    match createDirectories t here up.1 with
    | (t', .error (.refused .entryExists _)) | (t', .ok _) =>
      if up.2 = ['.'] then (t', .ok ()) else t'.ensureDirectory here (String.ofList path)
    | (t', .error e) => (t', .error e)
  else t.ensureDirectory here (String.ofList path)
termination_by path.length

end FileTree
end VersionStamp
