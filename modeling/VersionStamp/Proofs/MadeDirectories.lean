/-
Directories that were made are there, with one exception.

To make directories succeeds and changes nothing where they are there, and only
there (`createDirectories_eq_self_iff`). But a dot at the end of a path is never
made. It is left out once all above it is made, and also when that cannot be made
because something else is there already. So a path that ends in a dot may pass for
made and lead nowhere (`dot_behind_file_is_given`), and no other
(`isDirectory_of_createDirectories`); `isDirectory_iff_of_createDirectories` says
when. `directory_is_made` says it of the log directory.
-/
import VersionStamp.Proofs.StandingDirectories

namespace VersionStamp

open Path.Chars (names)

/-! ## Where a path is cut -/

/-- The last stretch is empty only behind a separator. -/
theorem Text.Chars.getLast?_of_split {separator : Char} {cs : List Char} (h : (split separator cs).getLast? = some []) :
    cs = [] ∨ cs.getLast? = some separator := by
  induction cs with
  | nil => exact .inl rfl
  | cons c cs ih =>
    have hcons : cs.getLast? = some separator → (c :: cs).getLast? = some separator := by
      intro hlast
      rw [List.getLast?_cons, hlast, Option.getD_some]
    obtain ⟨l, ls, hsplit⟩ := List.exists_cons_of_ne_nil (split_ne_nil separator cs)
    rw [hsplit] at ih
    rw [split] at h
    split at h
    next hc =>
      rw [hsplit, List.getLast?_cons_cons] at h
      rcases ih h with rfl | hlast
      · exact .inr (by rw [hc]; rfl)
      · exact .inr (hcons hlast)
    next =>
      rw [hsplit] at h
      cases ls with
      | nil => simp at h
      | cons m ls =>
        dsimp only at h
        rw [List.getLast?_cons_cons] at h ih
        rcases ih h with rfl | hlast
        · simp [split] at hsplit
        · exact .inr (hcons hlast)

namespace Path.Chars

/-- What stands in front of the last component ends in a slash only if it is nothing but slashes. -/
theorem slashes_of_split {cs : List Char} (h : (split cs).1.getLast? = some '/') : ∀ c ∈ (split cs).1, c = '/' := by
  simp only [split] at h ⊢
  generalize (cs.reverse.dropWhile (· ≠ '/')).reverse = front at h ⊢
  split at h
  next hbare =>
    rw [if_pos hbare]
    intro c hc
    rw [List.reverse_eq_nil_iff, List.dropWhile_eq_nil_iff] at hbare
    simpa using hbare c (List.mem_reverse.2 hc)
  next =>
    rw [List.getLast?_reverse] at h
    have hhead := List.head?_dropWhile_not (· = '/') front.reverse
    rw [h] at hhead
    simp at hhead

theorem slashes_of_above {cs : List Char} (h : (above cs).1.getLast? = some '/') : ∀ c ∈ (above cs).1, c = '/' := by
  unfold above at h ⊢
  split at h
  next hlast =>
    rw [if_pos hlast]
    exact slashes_of_split h
  next hlast =>
    rw [if_neg hlast]
    exact slashes_of_split h

/-- Unless it is nothing but slashes, what stands in front of the last component stands in front of a slash. -/
theorem split_eq_front {cs : List Char} (hne : (split cs).1 ≠ []) (hlast : (split cs).1.getLast? ≠ some '/') :
    ∃ rest, cs = (split cs).1 ++ '/' :: rest := by
  obtain ⟨front, rest, hcs, hfront | hfront⟩ := split_front hne
  · exact ⟨rest, by rw [hfront]; exact hcs⟩
  · rw [hfront, List.getLast?_concat] at hlast
    exact absurd rfl hlast

theorem above_eq_front {cs : List Char} (hne : (above cs).1 ≠ []) (hlast : (above cs).1.getLast? ≠ some '/') :
    ∃ rest, cs = (above cs).1 ++ '/' :: rest := by
  unfold above at hne hlast ⊢
  split at hne
  next hnone =>
    rw [if_pos hnone] at hlast ⊢
    obtain ⟨rest, hrest⟩ := split_eq_front hne hlast
    obtain ⟨more, hmore⟩ := isPrefix_split cs
    refine ⟨rest ++ more, ?_⟩
    rw [← List.cons_append, ← List.append_assoc, ← hrest, hmore]
  next hnone =>
    rw [if_neg hnone] at hlast ⊢
    exact split_eq_front hne hlast

end Path.Chars

namespace FileTree

variable {t t' : FileTree} {here p : Place}

/-! ## Where a path leads to a directory -/

theorem enter_stay {c : String} (hp : t.get? p = some .directory) (hc : c = "" ∨ c = ".") : t.enter p c = .ok p := by
  simp only [enter, hp]
  rw [if_pos hc]

/-- From a directory one may stay where one is. -/
theorem follow_stay {cs : List String} (hp : t.get? p = some .directory) (hcs : ∀ c ∈ cs, c = "" ∨ c = ".") :
    t.follow p cs = .ok p := by
  induction cs with
  | nil => rfl
  | cons c cs ih =>
    rw [follow, enter_stay hp (hcs c List.mem_cons_self)]
    exact ih fun d hd => hcs d (List.mem_cons_of_mem _ hd)

/-- On the way to a directory it makes no difference to stay for a while. -/
theorem reaches_directory_iff (cs : List String) :
    (∃ p, t.follow here cs = .ok p ∧ t.get? p = some .directory) ↔
      ∃ p, t.follow here (cs.filter fun c => c ≠ "" ∧ c ≠ ".") = .ok p ∧ t.get? p = some .directory := by
  induction cs generalizing here with
  | nil => rfl
  | cons c cs ih =>
    by_cases hstay : c = "" ∨ c = "."
    · rw [List.filter_cons_of_neg (by simpa [← not_or] using hstay), ← ih, follow]
      constructor
      · rintro ⟨p, hfollow, hp⟩
        cases henter : t.enter here c with
        | error r => simp [henter] at hfollow
        | ok next =>
          obtain rfl := Except.ok.inj (henter.symm.trans (enter_stay (enter_eq_ok henter).1 hstay))
          rw [henter] at hfollow
          exact ⟨p, hfollow, hp⟩
      · rintro ⟨p, hfollow, hp⟩
        have hhere : t.get? here = some .directory := by
          by_cases hcs : cs = []
          · subst hcs
            obtain rfl : here = p := by simpa [follow] using hfollow
            exact hp
          · exact directory_of_follow hfollow hcs
        rw [enter_stay hhere hstay]
        exact ⟨p, hfollow, hp⟩
    · rw [List.filter_cons_of_pos (by simpa [← not_or] using hstay), follow, follow]
      cases t.enter here c with
      | error r => simp
      | ok next => exact ih

/-- A path leads to a directory if its names do, those that stay left out. -/
theorem isDirectory_iff_names {path : List Char} :
    t.isDirectory here (String.ofList path) = true ↔
      accept (String.ofList path) = .ok () ∧
        ∃ p, t.follow (startOf here (String.ofList path)) ((names path).filter (· ≠ ".")) = .ok p ∧
          t.get? p = some .directory := by
  have hnames : (names path).filter (· ≠ ".") =
      (Path.components (String.ofList path)).filter fun c => c ≠ "" ∧ c ≠ "." := by
    simp only [names, Path.components, String.toList_ofList, List.filter_filter, ← Bool.decide_and, and_comm]
  rw [isDirectory_eq_true_iff, hnames, ← reaches_directory_iff]
  simp only [find_eq_ok_iff, and_assoc, exists_and_left]

/-- A path that ends in a dot leads to a directory if what stands in front of the dot does. -/
theorem isDirectory_dot_iff {path : List Char} (hne : (Path.Chars.above path).1 ≠ [])
    (hdot : (Path.Chars.above path).2 = ['.']) :
    t.isDirectory here (String.ofList path) = true ↔
      accept (String.ofList path) = .ok () ∧ t.isDirectory here (String.ofList (Path.Chars.above path).1) = true := by
  have hnames : (names path).filter (· ≠ ".") = (names (Path.Chars.above path).1).filter (· ≠ ".") := by
    rw [← Path.Chars.names_above path, hdot, List.filter_append]
    simp [names, Text.Chars.split]
  rw [isDirectory_iff_names, isDirectory_iff_names, hnames, startOf_above hne]
  constructor
  · intro h
    obtain ⟨haccept, hreached⟩ := h
    obtain ⟨rest, hrest⟩ := Path.Chars.isPrefix_above path
    exact ⟨haccept, accept_front (hrest ▸ haccept) hne, hreached⟩
  · intro h
    exact ⟨h.1, h.2.2⟩

/-- A path that does not end in a slash is followed to its end. -/
theorem withoutTrailing_components {path : List Char} (hne : path ≠ []) (hlast : path.getLast? ≠ some '/') :
    withoutTrailing (Path.components (String.ofList path)) = Path.components (String.ofList path) := by
  have hends : (Path.components (String.ofList path)).getLast? ≠ some "" := by
    rw [Path.components, String.toList_ofList, List.getLast?_map]
    intro h
    obtain ⟨last, hsplit, hempty⟩ := Option.map_eq_some_iff.1 h
    obtain rfl : last = [] := by simpa using hempty
    exact (Text.Chars.getLast?_of_split hsplit).elim hne hlast
  refine List.rdropWhile_eq_self_iff.2 fun hcomponents hempty => hends ?_
  rw [List.getLast?_eq_some_getLast hcomponents, of_decide_eq_true hempty]

/-- What is left out at the end does not lead away from a directory. -/
theorem follow_withoutTrailing {components : List String} (hfollow : t.follow here (withoutTrailing components) = .ok p)
    (hp : t.get? p = some .directory) : t.follow here components = .ok p := by
  rw [← withoutTrailing_append components, follow_append hfollow]
  refine follow_stay hp fun c hc => .inl ?_
  simpa using List.mem_takeWhile_imp (List.mem_reverse.1 hc)

/-! ## One directory -/

/-- A directory that is made is there. -/
theorem isDirectory_of_makeDirectory {path : String} (h : t.makeDirectory here path = .ok t') :
    t'.isDirectory here path = true := by
  obtain ⟨haccept, hmade⟩ := makeDirectory_eq_ok h
  obtain ⟨parent, name, hparent, hname, hshort, hnone, rfl⟩ := makeAt_eq_ok hmade
  obtain ⟨hreached, hdirectory, hlast⟩ := findParent_eq_ok hparent
  have hkeeps := (grows_put_directory hnone).keeps
  have hthere : (t.put (parent ++ [name]) .directory).get? (parent ++ [name]) = some .directory :=
    get?_put_self t (by simp) _
  have henter : (t.put (parent ++ [name]) .directory).enter parent name = .ok (parent ++ [name]) :=
    enter_of_isSome (hkeeps.directory _ hdirectory) hname hshort (by rw [hthere]; rfl)
  have hfollow : (t.put (parent ++ [name]) .directory).follow (startOf here path)
      (withoutTrailing (Path.components path)) = .ok (parent ++ [name]) := by
    rw [← Path.dropLast_append_last hlast fun hempty => hname (.inl hempty), follow_append (hkeeps.follow hreached),
      follow, henter]
    rfl
  exact isDirectory_eq_true_iff.2
    ⟨_, find_eq_ok_iff.2 ⟨haccept, follow_withoutTrailing hfollow hthere⟩, hthere⟩

theorem follow_ne_entryExists (t : FileTree) (here : Place) (components : List String) :
    t.follow here components ≠ .error .entryExists := by
  induction components generalizing here with
  | nil => nofun
  | cons c cs ih =>
    rw [follow]
    split
    next e henter =>
      rintro ⟨⟩
      simp only [enter] at henter
      repeat' split at henter
      all_goals cases henter
    next next _ => exact ih next

theorem findParent_ne_entryExists (t : FileTree) (here : Place) (components : List String) :
    t.findParent here components ≠ .error .entryExists := by
  intro h
  simp only [findParent] at h
  split at h
  next e hfollow =>
    cases h
    exact follow_ne_entryExists _ _ _ hfollow
  next => split at h <;> cases h

theorem accept_ne_entryExists (path q : String) : accept path ≠ .error (.refused .entryExists q) := by
  intro h
  simp only [accept] at h
  repeat' split at h
  all_goals cases h

/-- What cannot be made because it is there is where the components lead. -/
theorem follow_of_makeAt {components : List String} (h : t.makeAt here components = .error .entryExists) :
    ∃ p, t.follow here components = .ok p := by
  by_cases hnil : components = []
  · exact ⟨here, by rw [hnil, follow]⟩
  simp only [makeAt] at h
  split at h
  next e hparent =>
    cases h
    exact absurd hparent (findParent_ne_entryExists _ _ _)
  next parent name hparent =>
  obtain ⟨hreached, hdirectory, hlast⟩ := findParent_eq_ok hparent
  have hconcat : components.dropLast ++ [name] = components := hlast ▸ Path.dropLast_append_getLastD hnil
  have henter : ∃ p, t.enter parent name = .ok p := by
    split at h
    next hname =>
      rcases hname with rfl | rfl | rfl
      · exact ⟨parent, enter_stay hdirectory (.inl rfl)⟩
      · exact ⟨parent, enter_stay hdirectory (.inr rfl)⟩
      · exact ⟨parent.dropLast, by simp [enter, hdirectory]⟩
    next hname =>
    split at h
    · cases h
    next hshort =>
    split at h
    next hthere => exact ⟨parent ++ [name], enter_of_isSome hdirectory hname hshort hthere⟩
    · cases h
  obtain ⟨p, hp⟩ := henter
  refine ⟨p, ?_⟩
  rw [← hconcat, follow_append hreached, follow, hp]
  rfl

/-- After a success the directory is there. -/
theorem isDirectory_of_ensureDirectory {path : String} (h : t.ensureDirectory here path = (t', .ok ())) :
    t'.isDirectory here path = true := by
  simp only [ensureDirectory] at h
  split at h
  next made hmade =>
    cases h
    exact isDirectory_of_makeDirectory hmade
  · cases h
  next =>
    split at h
    next hthere =>
      cases h
      exact hthere
    · cases h

/-- What stands in the way of a directory that is not made, for being there, is something else. -/
theorem follow_of_ensureDirectory {path q : String}
    (h : t.ensureDirectory here path = (t', .error (.refused .entryExists q))) :
    t' = t ∧ accept path = .ok () ∧ ∃ p, t.follow (startOf here path) (withoutTrailing (Path.components path)) = .ok p ∧
      t.get? p ≠ some .directory := by
  simp only [ensureDirectory] at h
  split at h
  · cases h
  · cases h
  next r q hmade =>
  split at h
  · cases h
  next hthere =>
  cases h
  simp only [makeDirectory] at hmade
  split at hmade
  next e haccept =>
    cases hmade
    exact absurd haccept (accept_ne_entryExists _ _)
  next haccept =>
  cases hat : t.makeAt (startOf here path) (withoutTrailing (Path.components path)) with
  | ok made => simp [hat, refuse] at hmade
  | error r =>
    rw [hat] at hmade
    cases hmade
    obtain ⟨p, hp⟩ := follow_of_makeAt hat
    refine ⟨rfl, haccept, p, hp, fun hdirectory => hthere ?_⟩
    exact isDirectory_eq_true_iff.2
      ⟨p, find_eq_ok_iff.2 ⟨haccept, follow_withoutTrailing hp hdirectory⟩, hdirectory⟩

/-! ## A directory and those above it -/

/-- The directory is made in the end, or left out for a dot at the end of the path, or what is above it fails. -/
theorem createDirectories_cases (t : FileTree) (here : Place) (path : List Char) :
    (∃ made : FileTree, t.createDirectories here path = made.ensureDirectory here (String.ofList path)) ∨
      ((Path.Chars.above path).1 ≠ [] ∧ (Path.Chars.above path).2 = ['.'] ∧
        t.holds here (String.ofList (Path.Chars.above path).1) = false ∧
        ∃ made, t.createDirectories here path = (made, .ok ()) ∧
          (t.createDirectories here (Path.Chars.above path).1 = (made, .ok ()) ∨
            ∃ q, t.createDirectories here (Path.Chars.above path).1 = (made, .error (.refused .entryExists q)))) ∨
      ∃ made e, t.createDirectories here path = (made, .error e) ∧ ∀ q, e ≠ .refused .entryExists q := by
  fun_cases createDirectories t here path with
  | case1 up hup _ made _ habove hdot => exact .inr (.inl ⟨hup.1, hdot, hup.2.2, made, rfl, .inr ⟨_, habove⟩⟩)
  | case3 up hup _ made _ habove hdot => exact .inr (.inl ⟨hup.1, hdot, hup.2.2, made, rfl, .inl habove⟩)
  | case2 | case4 | case6 => exact .inl ⟨_, rfl⟩
  | case5 up _ _ made e hother => exact .inr (.inr ⟨made, e, rfl, hother⟩)

/-- Directories that were made are there, unless nothing was made of a dot at the end. -/
theorem createDirectories_eq_ok {path : List Char} (h : t.createDirectories here path = (t', .ok ())) :
    t'.isDirectory here (String.ofList path) = true ∨
      (Path.Chars.above path).1 ≠ [] ∧ (Path.Chars.above path).2 = ['.'] ∧
        t.holds here (String.ofList (Path.Chars.above path).1) = false ∧
        (t.createDirectories here (Path.Chars.above path).1 = (t', .ok ()) ∨
          ∃ q, t.createDirectories here (Path.Chars.above path).1 = (t', .error (.refused .entryExists q))) := by
  rcases t.createDirectories_cases here path with
    ⟨made, hmade⟩ | ⟨hne, hdot, hmissing, made, hmade, habove⟩ | ⟨made, e, hmade, -⟩
  · exact .inl (isDirectory_of_ensureDirectory (hmade.symm.trans h))
  · cases hmade.symm.trans h
    exact .inr ⟨hne, hdot, hmissing, habove⟩
  · cases hmade.symm.trans h

/-- What happens once what is above has been made, or is there already. -/
theorem createDirectories_of_above {path : List Char} {result : Except FileError Unit}
    (hup : (Path.Chars.above path).1 ≠ [] ∧ (Path.Chars.above path).2 ≠ [] ∧
      t.holds here (String.ofList (Path.Chars.above path).1) = false)
    (habove : t.createDirectories here (Path.Chars.above path).1 = (t', result))
    (hresult : result = .ok () ∨ ∃ q, result = .error (.refused .entryExists q)) :
    t.createDirectories here path =
      if (Path.Chars.above path).2 = ['.'] then (t', .ok ()) else t'.ensureDirectory here (String.ofList path) := by
  rw [createDirectories]
  rcases hresult with rfl | ⟨q, rfl⟩ <;> simp only [dif_pos hup, habove]

/-- What stands in the way of directories that are not made, for being there, is something else. -/
theorem follow_of_createDirectories {path : List Char} {q : String}
    (h : t.createDirectories here path = (t', .error (.refused .entryExists q))) :
    accept (String.ofList path) = .ok () ∧
      ∃ p, t'.get? p ≠ some .directory ∧
        t'.follow (startOf here (String.ofList path)) (withoutTrailing (Path.components (String.ofList path))) = .ok p := by
  rcases t.createDirectories_cases here path with ⟨made, hmade⟩ | ⟨-, -, -, made, hmade, -⟩ | ⟨made, e, hmade, hother⟩
  · obtain ⟨rfl, haccept, p, hfollow, hp⟩ := follow_of_ensureDirectory (hmade.symm.trans h)
    exact ⟨haccept, p, hp, hfollow⟩
  · cases hmade.symm.trans h
  · cases hmade.symm.trans h
    exact absurd rfl (hother q)

/-- Nothing stands in the way of the root. -/
theorem follow_slashes {path : List Char} (hne : path ≠ []) (h : ∀ c ∈ path, c = '/') :
    t.follow (startOf here (String.ofList path)) (withoutTrailing (Path.components (String.ofList path))) = .ok [] := by
  have hstart : startOf here (String.ofList path) = [] := by
    obtain ⟨c, cs, rfl⟩ := List.exists_cons_of_ne_nil hne
    obtain rfl := h c List.mem_cons_self
    simp [startOf, Path.isAbsolute]
  have hempty : ∀ c ∈ Path.components (String.ofList path), c = "" := by
    have hnames := Path.Chars.names_slashes h
    rw [names, List.filter_eq_nil_iff] at hnames
    intro c hc
    rw [Path.components, String.toList_ofList] at hc
    simpa using hnames c hc
  rw [hstart]
  refine follow_stay rfl fun c hc => .inl (hempty c ?_)
  exact List.mem_reverse.1 ((List.dropWhile_sublist _).subset (List.mem_reverse.1 hc))

/-- What stands in the way of the directory above the last component stands in front of a slash. -/
theorem find_above_of_createDirectories {path : List Char} {q : String} (hne : (Path.Chars.above path).1 ≠ [])
    (h : t.createDirectories here (Path.Chars.above path).1 = (t', .error (.refused .entryExists q))) :
    ∃ rest p, path = (Path.Chars.above path).1 ++ '/' :: rest ∧
      t'.find here (String.ofList (Path.Chars.above path).1) = .ok p ∧ t'.get? p ≠ some .directory := by
  obtain ⟨haccept, p, hp, hfollow⟩ := follow_of_createDirectories h
  have hlast : (Path.Chars.above path).1.getLast? ≠ some '/' := by
    intro hlast
    obtain rfl := Except.ok.inj (hfollow.symm.trans (follow_slashes hne (Path.Chars.slashes_of_above hlast)))
    exact hp rfl
  obtain ⟨rest, hpath⟩ := Path.Chars.above_eq_front hne hlast
  rw [withoutTrailing_components hne hlast] at hfollow
  exact ⟨rest, p, hpath, find_eq_ok_iff.2 ⟨haccept, hfollow⟩, hp⟩

/-- Making directories changes nothing and succeeds where they are there, and only there. -/
theorem createDirectories_eq_self_iff {path : List Char} :
    t.createDirectories here path = (t, .ok ()) ↔ t.isDirectory here (String.ofList path) = true := by
  refine ⟨fun h => ?_, createDirectories_of_isDirectory⟩
  induction path using (measure List.length).wf.induction with
  | _ path ih =>
  -- A dot is only left out behind something that is missing, and that is missing still.
  rcases createDirectories_eq_ok h with hthere | ⟨hne, hdot, hmissing, habove | ⟨q, hexists⟩⟩
  · exact hthere
  · have hshorter : (Path.Chars.above path).1.length < path.length := Path.Chars.length_above_lt (by rw [hdot]; simp)
    obtain ⟨p, hfind, -⟩ := isDirectory_eq_true_iff.1 (ih _ hshorter habove)
    simp [holds, hfind] at hmissing
  · obtain ⟨_, p, -, hfind, -⟩ := find_above_of_createDirectories hne hexists
    simp [holds, hfind] at hmissing

/-- No slash of the path stands behind something that is no directory. -/
def Unobstructed (t : FileTree) (here : Place) (path : List Char) : Prop :=
  ∀ front rest p, path = front ++ '/' :: rest → t.find here (String.ofList front) = .ok p → t.get? p = some .directory

theorem Unobstructed.above {path : List Char} (h : t.Unobstructed here path) :
    t.Unobstructed here (Path.Chars.above path).1 := by
  intro front rest p hfront
  obtain ⟨more, hpath⟩ := Path.Chars.isPrefix_above path
  exact h front (rest ++ more) p (by rw [← hpath, hfront, List.append_assoc, List.cons_append])

/-- Nothing is in the way to a directory. -/
theorem unobstructed_of_isDirectory {path : List Char} (h : t.isDirectory here (String.ofList path) = true) :
    t.Unobstructed here path := by
  intro front rest q hpath hq
  obtain ⟨p, hfind, -⟩ := isDirectory_eq_true_iff.1 h
  have hne : front ≠ [] := by
    rintro rfl
    exact (accept_eq_ok_iff.1 (find_eq_ok_iff.1 hq).1).2.2 rfl
  obtain ⟨mid, hmid, -, hfront⟩ := find_front (hpath ▸ hfind)
  rw [Except.ok.inj (hq.symm.trans (hfront hne)), hmid]

/-- A directory that was made is there if its path is accepted and nothing is in the way. -/
theorem isDirectory_iff_of_createDirectories {path : List Char} (h : t.createDirectories here path = (t', .ok ())) :
    t'.isDirectory here (String.ofList path) = true ↔
      accept (String.ofList path) = .ok () ∧ t'.Unobstructed here path := by
  constructor
  · intro hthere
    obtain ⟨p, hfind, -⟩ := isDirectory_eq_true_iff.1 hthere
    exact ⟨(find_eq_ok_iff.1 hfind).1, unobstructed_of_isDirectory hthere⟩
  · rintro ⟨haccept, hfree⟩
    induction path using (measure List.length).wf.induction with
    | _ path ih =>
    rcases createDirectories_eq_ok h with hthere | ⟨hne, hdot, -, habove | ⟨q, hexists⟩⟩
    · exact hthere
    · have hshorter : (Path.Chars.above path).1.length < path.length := Path.Chars.length_above_lt (by rw [hdot]; simp)
      obtain ⟨rest, hpath⟩ := Path.Chars.isPrefix_above path
      have haccept' := accept_front (hpath ▸ haccept) hne
      exact (isDirectory_dot_iff hne hdot).2 ⟨haccept, ih _ hshorter habove haccept' hfree.above⟩
    · obtain ⟨rest, p, hpath, hfind, hp⟩ := find_above_of_createDirectories hne hexists
      exact absurd (hfree _ rest p hpath hfind) hp

/-- Only a dot at the end is left out. -/
theorem isDirectory_of_createDirectories {path : List Char} (h : t.createDirectories here path = (t', .ok ()))
    (hlast : (names path).getLast? ≠ some ".") : t'.isDirectory here (String.ofList path) = true := by
  rcases createDirectories_eq_ok h with hthere | ⟨-, hdot, -, -⟩
  · exact hthere
  · refine absurd ?_ hlast
    rw [← Path.Chars.names_above path, hdot]
    exact List.getLast?_concat

end FileTree

/-! ## The log directory -/

namespace Log

open FileTree
open Text (NulFree)

theorem prepare_of_ne {given : String} {w : World} (h : directoryFor w.env given ≠ "") :
    prepare given w =
      ((w.files.createDirectories w.here (directoryFor w.env given).toList).1,
        (w.files.createDirectories w.here (directoryFor w.env given).toList).2.map fun _ =>
          directoryFor w.env given) := by
  simp only [prepare, if_neg h]
  split
  next hmade => rw [hmade]; rfl
  next hmade => rw [hmade]; rfl

theorem run_directory (given : String) (w : World) :
    (directory given).run w = ⟨(prepare given w).2.mapError .file, (prepare given w).1, "", "", []⟩ :=
  Action.run_orFault_onFiles _ w

/-- A log directory is given after it was made, and git is asked nothing for it. -/
theorem run_directory_eq_ok_iff {given logs : String} {w : World} {files : FileTree} (hne : logs ≠ "") :
    (directory given).run w = ⟨.ok logs, files, "", "", []⟩ ↔
      logs = directoryFor w.env given ∧ w.files.createDirectories w.here logs.toList = (files, .ok ()) := by
  rw [run_directory]
  by_cases hnone : directoryFor w.env given = ""
  · refine iff_of_false (fun h => hne ?_) fun h => hne (h.1.trans hnone)
    have hempty : prepare given w = (w.files, .ok "") := by rw [prepare, hnone, if_pos rfl]
    rw [hempty] at h
    injection h with hresult
    exact (Except.ok.inj hresult).symm
  · rw [prepare_of_ne hnone]
    constructor
    · intro h
      cases hmade : w.files.createDirectories w.here (directoryFor w.env given).toList with
      | mk t result =>
      rw [hmade] at h
      cases result with
      | error e => cases h
      | ok _ =>
        cases h
        exact ⟨rfl, hmade⟩
    · rintro ⟨rfl, hmade⟩
      rw [hmade]
      rfl

/-- **The log directory is made, or refused, and nothing but directories is added.** A directory that is given is there,
and asking for it again changes nothing and gives it again, unless the last name in its path is a dot that stands behind
something else than a directory, or that makes the path too long. -/
theorem directory_is_made {given : String} {w : World} {made : Report String}
    (hlogs : NulFree (directoryFor w.env given)) (hmade : (directory given).run w = made) :
    w.files.Grows made.files ∧
      (∀ logs, made.result = .ok logs → logs = directoryFor w.env given ∧
        (logs ≠ "" →
          (made.files.isDirectory w.here logs = true ↔
            logs.utf8ByteSize < 4096 ∧ made.files.Unobstructed w.here logs.toList) ∧
          ((names logs.toList).getLast? ≠ some "." → made.files.isDirectory w.here logs = true) ∧
          ((directory given).run (w.after made) = ⟨.ok logs, made.files, "", "", []⟩ ↔
            made.files.isDirectory w.here logs = true))) ∧
      ∀ fault, made.result = .error fault → ∃ cause path, fault = .file (.refused cause path) := by
  subst hmade
  refine ⟨?_, fun logs h => ?_, fun fault h => ?_⟩
  · rw [run_directory]
    exact prepare_grows given w
  · simp only [run_directory, Except.mapError_eq_ok] at h
    have hgiven : logs = directoryFor w.env given := prepare_eq_ok (Prod.ext rfl h)
    refine ⟨hgiven, fun hne => ?_⟩
    have hrun : (directory given).run w = ⟨.ok logs, ((directory given).run w).files, "", "", []⟩ := by
      simp only [run_directory, h, Except.mapError_ok]
    have hdone := ((run_directory_eq_ok_iff hne).1 hrun).2
    have hthere := isDirectory_iff_of_createDirectories hdone
    have hdot := isDirectory_of_createDirectories hdone
    have haccept : accept logs = .ok () ↔ logs.utf8ByteSize < 4096 := by
      rw [accept_eq_ok_iff]
      exact ⟨fun h => h.2.1, fun h => ⟨hgiven ▸ hlogs, h, hne⟩⟩
    rw [String.ofList_toList] at hthere hdot
    refine ⟨hthere.trans (and_congr_left' haccept), hdot, (run_directory_eq_ok_iff hne).trans ?_⟩
    refine (and_iff_right hgiven).trans (createDirectories_eq_self_iff.trans ?_)
    rw [String.ofList_toList]
    rfl
  · simp only [run_directory] at h
    have hnul := prepare_ne_embeddedNul hlogs
    cases hresult : (prepare given w).2 with
    | ok logs =>
      rw [hresult] at h
      cases h
    | error e =>
      rw [hresult] at h hnul
      cases e with
      | embeddedNul => exact absurd rfl hnul
      | refused cause path => exact ⟨cause, path, (Except.error.inj h).symm⟩

/-- A world with a file in it. -/
def cluttered : World where
  files := { entries := [(["f"], .file .empty)] }
  now := .utc 0
  installation := "/"

/-- The way through a missing directory is made first. -/
theorem createDirectories_up_again :
    cluttered.files.createDirectories [] "x/..".toList = (cluttered.files.put ["x"] .directory, .ok ()) := by
  have hx : cluttered.files.createDirectories [] "x".toList = (cluttered.files.put ["x"] .directory, .ok ()) := by
    rw [createDirectories]
    rfl
  refine (createDirectories_of_above ?_ hx (.inl rfl)).trans rfl
  decide

/-- A log directory is reached through one that is made for it. -/
theorem directory_through_missing_is_made :
    ((directory "x/../logs/").run cluttered).result = .ok "x/../logs/" ∧
      ((directory "x/../logs/").run cluttered).files.isDirectory cluttered.here "x/../logs/" = true ∧
      (directory "x/../logs/").run (cluttered.after ((directory "x/../logs/").run cluttered)) =
        ⟨.ok "x/../logs/", ((directory "x/../logs/").run cluttered).files, "", "", []⟩ := by
  have hmade : cluttered.files.createDirectories [] "x/../logs/".toList =
      ((cluttered.files.put ["x"] .directory).put ["logs"] .directory, .ok ()) := by
    refine (createDirectories_of_above ?_ createDirectories_up_again (.inl rfl)).trans rfl
    decide
  have hrun : (directory "x/../logs/").run cluttered =
      ⟨.ok "x/../logs/", (cluttered.files.put ["x"] .directory).put ["logs"] .directory, "", "", []⟩ :=
    (run_directory_eq_ok_iff (by decide)).2 ⟨rfl, hmade⟩
  have hresult : ((directory "x/../logs/").run cluttered).result = .ok "x/../logs/" := by rw [hrun]
  obtain ⟨-, hdone, -⟩ := directory_is_made (show NulFree (directoryFor cluttered.env "x/../logs/") by decide) rfl
  obtain ⟨-, hthere⟩ := hdone _ hresult
  obtain ⟨-, hdirectory, hagain⟩ := hthere (by decide)
  exact ⟨hresult, hdirectory (by decide), hagain.2 (hdirectory (by decide))⟩

/-- A dot behind a file is no directory. It is given as one all the same when the way to the file had to be made, and
refused from then on. -/
theorem dot_behind_file_is_given :
    NulFree (directoryFor cluttered.env "x/../f/.") ∧
      ((directory "x/../f/.").run cluttered).result = .ok "x/../f/." ∧
      ((directory "x/../f/.").run cluttered).files.isDirectory cluttered.here "x/../f/." = false ∧
      ((directory "x/../f/.").run (cluttered.after ((directory "x/../f/.").run cluttered))).result =
        .error (.file (.refused .notDirectory "x/../f/.")) := by
  have hfile : cluttered.files.createDirectories [] "x/../f".toList =
      (cluttered.files.put ["x"] .directory, .error (.refused .entryExists "x/../f")) := by
    refine (createDirectories_of_above ?_ createDirectories_up_again (.inl rfl)).trans rfl
    decide
  have hmade : cluttered.files.createDirectories [] "x/../f/.".toList =
      (cluttered.files.put ["x"] .directory, .ok ()) := by
    refine (createDirectories_of_above ?_ hfile (.inr ⟨_, rfl⟩)).trans rfl
    decide
  have hrun : (directory "x/../f/.").run cluttered =
      ⟨.ok "x/../f/.", cluttered.files.put ["x"] .directory, "", "", []⟩ :=
    (run_directory_eq_ok_iff (by decide)).2 ⟨rfl, hmade⟩
  have hagain : (cluttered.files.put ["x"] .directory).createDirectories [] "x/../f/.".toList =
      (cluttered.files.put ["x"] .directory, .error (.refused .notDirectory "x/../f/.")) := by
    rw [createDirectories]
    rfl
  refine ⟨by decide, by rw [hrun], by rw [hrun]; rfl, ?_⟩
  rw [hrun, run_directory, prepare_of_ne (by decide)]
  show Except.mapError _
    (Except.map _ ((cluttered.files.put ["x"] .directory).createDirectories [] "x/../f/.".toList).2) = _
  rw [hagain]
  rfl

end Log
end VersionStamp
