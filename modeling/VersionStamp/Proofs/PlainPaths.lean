/-
Paths that name a place by their text alone.

In a plain path no component is `.` or `..`, so wherever it leads, it leads to
the names in it, one below the other (`follow_plain`). A location is written as
such a path (`names_text`), so a file written there is put at its place
(`Writes.place_eq`), and the directories made for it are those on the way down
(`createDirectories_plain`, `createDirectories_growsTo`).
-/
import Mathlib.Data.List.TakeWhile
import VersionStamp.Proofs.TreeGrowth

namespace VersionStamp

open Text.Chars (split_of_not_mem split_append mem_of_mem_split)

/-! ## The names in a path -/

namespace Path.Chars

/-- The components that are not empty. -/
def names (cs : List Char) : Place := ((Text.Chars.split '/' cs).map String.ofList).filter (· ≠ "")

@[simp] theorem names_nil : names [] = [] := rfl

theorem names_append (front rest : List Char) : names (front ++ '/' :: rest) = names front ++ names rest := by
  rw [names, split_append, List.map_append, List.filter_append]
  rfl

theorem names_cons (cs : List Char) : names ('/' :: cs) = names cs := names_append [] cs

theorem names_of_not_mem {cs : List Char} (h : '/' ∉ cs) (hne : cs ≠ []) : names cs = [String.ofList cs] := by
  have hname : String.ofList cs ≠ "" := by simpa using hne
  rw [names, split_of_not_mem h, List.map_singleton, List.filter_cons_of_pos (by simpa using hname), List.filter_nil]

theorem names_slashes {slashes : List Char} (h : ∀ c ∈ slashes, c = '/') : names slashes = [] := by
  induction slashes with
  | nil => rfl
  | cons c cs ih =>
    obtain rfl := h c List.mem_cons_self
    rw [names_cons, ih fun d hd => h d (List.mem_cons_of_mem _ hd)]

theorem names_append_slashes {slashes : List Char} (h : ∀ c ∈ slashes, c = '/') (cs : List Char) :
    names (cs ++ slashes) = names cs := by
  cases slashes with
  | nil => rw [List.append_nil]
  | cons c slashes =>
    obtain rfl := h c List.mem_cons_self
    rw [names_append, names_slashes fun d hd => h d (List.mem_cons_of_mem _ hd), List.append_nil]

/-- The slashes at the end of a path can go. -/
theorem names_withoutSlashes (front : List Char) :
    names (front.reverse.dropWhile (· = '/')).reverse = names front := by
  have hslashes : ∀ c ∈ (front.reverse.takeWhile (· = '/')).reverse, c = '/' := by
    intro c hc
    simpa using List.mem_takeWhile_imp (List.mem_reverse.1 hc)
  rw [← names_append_slashes hslashes, ← List.reverse_append, List.takeWhile_append_dropWhile, List.reverse_reverse]

/-- A path has no slash, or is cut at its last one. -/
theorem front_cases (cs : List Char) :
    (cs.reverse.dropWhile (· ≠ '/')).reverse = [] ∨
      ∃ front, (cs.reverse.dropWhile (· ≠ '/')).reverse = front ++ ['/'] ∧
        cs = front ++ '/' :: (cs.reverse.takeWhile (· ≠ '/')).reverse := by
  have hcs : (cs.reverse.dropWhile (· ≠ '/')).reverse ++ (cs.reverse.takeWhile (· ≠ '/')).reverse = cs := by
    rw [← List.reverse_append, List.takeWhile_append_dropWhile, List.reverse_reverse]
  cases hdrop : cs.reverse.dropWhile (· ≠ '/') with
  | nil => exact .inl rfl
  | cons c rest =>
    have hslash : c = '/' := by
      have hhead := List.head?_dropWhile_not (· ≠ '/') cs.reverse
      rw [hdrop] at hhead
      simpa using hhead
    subst hslash
    rw [hdrop, List.reverse_cons, List.append_assoc, List.singleton_append] at hcs
    exact .inr ⟨rest.reverse, List.reverse_cons, hcs.symm⟩

/-- Cutting off the last component loses no name. -/
theorem names_split (cs : List Char) : names (split cs).1 ++ names (split cs).2 = names cs := by
  have hfront : names (cs.reverse.dropWhile (· ≠ '/')).reverse ++ names (cs.reverse.takeWhile (· ≠ '/')).reverse =
      names cs := by
    rcases front_cases cs with hnone | ⟨front, hfront, hcs⟩
    · have hcs := List.takeWhile_append_dropWhile (p := fun c => decide (c ≠ '/')) (l := cs.reverse)
      rw [List.reverse_eq_nil_iff.1 hnone, List.append_nil] at hcs
      rw [hnone, hcs, List.reverse_reverse, names_nil, List.nil_append]
    · rw [hfront, names_append, names_nil, List.append_nil, ← names_append, ← hcs]
  simp only [split]
  split
  · exact hfront
  · rw [names_withoutSlashes, hfront]

theorem names_above (cs : List Char) : names (above cs).1 ++ names (above cs).2 = names cs := by
  unfold above
  split
  next hlast =>
    have h := names_split cs
    rw [hlast, names_nil, List.append_nil] at h
    rw [names_split, h]
  · exact names_split cs

end Path.Chars

open Path.Chars (names)

/-- A path whose components are all names, or empty. -/
def Path.Plain (path : List Char) : Prop := ∀ name ∈ names path, name ≠ "." ∧ name ≠ ".."

theorem Path.Plain.above {path : List Char} (h : Path.Plain path) : Path.Plain (Path.Chars.above path).1 := by
  intro name hname
  refine h name ?_
  rw [← Path.Chars.names_above]
  exact List.mem_append_left _ hname

/-! ## Where a plain path leads -/

namespace FileTree

theorem startOf_front {here : Place} {front : List Char} (h : front ≠ []) (rest : List Char) :
    startOf here (String.ofList (front ++ rest)) = startOf here (String.ofList front) := by
  obtain ⟨c, cs, rfl⟩ := List.exists_cons_of_ne_nil h
  simp only [startOf, Path.isAbsolute, String.toList_ofList, List.cons_append, List.head?_cons]

theorem startOf_above {here : Place} {path : List Char} (h : (Path.Chars.above path).1 ≠ []) :
    startOf here (String.ofList (Path.Chars.above path).1) = startOf here (String.ofList path) := by
  obtain ⟨rest, hrest⟩ := Path.Chars.isPrefix_above path
  rw [← startOf_front h rest, hrest]

theorem follow_append_eq_ok {t : FileTree} {here p : Place} {cs ds : List String}
    (h : t.follow here (cs ++ ds) = .ok p) : ∃ mid, t.follow here cs = .ok mid ∧ t.follow mid ds = .ok p := by
  cases hmid : t.follow here cs with
  | ok mid => exact ⟨mid, rfl, by rwa [follow_append hmid] at h⟩
  | error e =>
    exfalso
    induction cs generalizing here with
    | nil => cases hmid
    | cons c cs ih =>
      simp only [List.cons_append, follow] at h hmid
      split at h
      · cases h
      next next hnext =>
      rw [hnext] at hmid
      exact ih h hmid

/-- Names lead down, and nowhere else. -/
theorem follow_plain {t : FileTree} {here p : Place} {cs : List String} (hcs : ∀ c ∈ cs, c ≠ "." ∧ c ≠ "..")
    (h : t.follow here cs = .ok p) : p = here ++ cs.filter (· ≠ "") := by
  induction cs generalizing here with
  | nil =>
    obtain rfl : here = p := by simpa [follow] using h
    simp
  | cons c cs ih =>
    simp only [follow] at h
    split at h
    · cases h
    next next hnext =>
    have hp := ih (fun d hd => hcs d (List.mem_cons_of_mem _ hd)) h
    obtain ⟨hdot, hup⟩ := hcs c List.mem_cons_self
    obtain ⟨-, ⟨hstay, rfl⟩ | ⟨-, h', -⟩ | ⟨hname, -, -, rfl⟩⟩ := enter_eq_ok hnext
    · obtain rfl : c = "" := hstay.resolve_right hdot
      simpa using hp
    · exact absurd h' hup
    · simpa [show c ≠ "" from fun h => hname (.inl h)] using hp

theorem findParent_plain {t : FileTree} {here parent : Place} {components : List String} {name : String}
    (hcs : ∀ c ∈ components, c ≠ "." ∧ c ≠ "..") (h : t.findParent here components = .ok (parent, name))
    (hne : name ≠ "") : parent ++ [name] = here ++ components.filter (· ≠ "") := by
  obtain ⟨hfollow, -, hlast⟩ := findParent_eq_ok h
  have hparent := follow_plain (fun c hc => hcs c ((List.dropLast_sublist _).subset hc)) hfollow
  calc parent ++ [name]
      = here ++ (components.dropLast ++ [name]).filter (· ≠ "") := by
        rw [List.filter_append, hparent]
        simp [hne]
    _ = here ++ components.filter (· ≠ "") := by rw [Path.dropLast_append_last hlast hne]

theorem mem_names_of_mem_components {path : List Char} {c : String}
    (h : c ∈ Path.components (String.ofList path)) (hne : c ≠ "") : c ∈ names path := by
  rw [Path.components, String.toList_ofList] at h
  exact List.mem_filter.2 ⟨h, by simpa using hne⟩

theorem components_of_plain {path : List Char} (h : Path.Plain path) {c : String}
    (hc : c ∈ Path.components (String.ofList path)) : c ≠ "." ∧ c ≠ ".." := by
  by_cases hne : c = ""
  · subst hne
    decide
  · exact h c (mem_names_of_mem_components hc hne)

/-- A file that a plain path names is put at the place that the path reads. -/
theorem Writes.place_eq {t : FileTree} {here parent : Place} {path name : String} {before : ByteArray}
    (hw : t.Writes here path parent name before) (h : Path.Plain path.toList) :
    parent ++ [name] = startOf here path ++ names path.toList := by
  rw [← String.ofList_toList (s := path)] at hw
  have hparent : t.findParent (startOf here (String.ofList path.toList))
      (Path.components (String.ofList path.toList)) = .ok (parent, name) := by
    rw [findParent, hw.reached]
    simp only [hw.directory, hw.last]
  have hplace := findParent_plain (fun c => components_of_plain h) hparent fun h => hw.named (.inl h)
  rwa [String.ofList_toList] at hplace

theorem withoutTrailing_append (components : List String) :
    withoutTrailing components ++ (components.reverse.takeWhile (· = "")).reverse = components := by
  rw [withoutTrailing, ← List.reverse_append, List.takeWhile_append_dropWhile, List.reverse_reverse]

theorem filter_withoutTrailing (components : List String) :
    (withoutTrailing components).filter (· ≠ "") = components.filter (· ≠ "") := by
  have hempty : (components.reverse.takeWhile (· = "")).reverse.filter (· ≠ "") = [] := by
    rw [List.filter_eq_nil_iff]
    intro c hc
    have := List.mem_takeWhile_imp (List.mem_reverse.1 hc)
    simpa using this
  calc (withoutTrailing components).filter (· ≠ "")
      = (withoutTrailing components ++ (components.reverse.takeWhile (· = "")).reverse).filter (· ≠ "") := by
        rw [List.filter_append, hempty, List.append_nil]
    _ = components.filter (· ≠ "") := by rw [withoutTrailing_append]

theorem ensureDirectory_plain {path : List Char} (h : Path.Plain path) (t : FileTree) (here : Place) (p : Place) :
    (t.ensureDirectory here (String.ofList path)).1.get? p = t.get? p ∨
      p = startOf here (String.ofList path) ++ names path := by
  rcases ensureDirectory_cases t here (String.ofList path) with hsame | hmade
  · exact .inl (by rw [hsame])
  obtain ⟨parent, name, hparent, hname, -, -, hput⟩ := makeAt_eq_ok hmade
  have hsub : ∀ c ∈ withoutTrailing (Path.components (String.ofList path)), c ≠ "." ∧ c ≠ ".." := by
    intro c hc
    exact components_of_plain h (List.mem_reverse.1 ((List.dropWhile_sublist _).subset (List.mem_reverse.1 hc)))
  have hplace := findParent_plain hsub hparent fun h => hname (.inl h)
  rw [filter_withoutTrailing, Path.components, String.toList_ofList] at hplace
  rw [hput]
  by_cases hp : p = parent ++ [name]
  · exact .inr (hp.trans hplace)
  · exact .inl (get?_put_other t _ hp)

/-- The directories made for a plain path are those on the way down. -/
theorem createDirectories_plain {path : List Char} (h : Path.Plain path) (t : FileTree) (here : Place) (p : Place) :
    (t.createDirectories here path).1.get? p = t.get? p ∨
      p <+: startOf here (String.ofList path) ++ names path := by
  have hself : ∀ (t : FileTree) (path : List Char), Path.Plain path →
      (t.ensureDirectory here (String.ofList path)).1.get? p = t.get? p ∨
        p <+: startOf here (String.ofList path) ++ names path := by
    intro t path h
    refine (ensureDirectory_plain h t here p).imp_right ?_
    rintro rfl
    exact List.prefix_refl _
  have hdown : ∀ path : List Char, (Path.Chars.above path).1 ≠ [] →
      p <+: startOf here (String.ofList (Path.Chars.above path).1) ++ names (Path.Chars.above path).1 →
        p <+: startOf here (String.ofList path) ++ names path := by
    intro path hne hp
    rw [startOf_above hne] at hp
    rw [← Path.Chars.names_above path, ← List.append_assoc]
    exact hp.trans (List.prefix_append _ _)
  fun_induction createDirectories t here path with
  | case1 path up hcond _ t' _ hup _ ih | case3 path up hcond _ t' _ hup _ ih | case5 path up hcond _ t' _ _ hup ih =>
    rw [hup] at ih
    exact (ih h.above).imp_right (hdown path hcond.1)
  | case2 path up hcond _ t' _ hup _ ih | case4 path up hcond _ t' _ hup _ ih =>
    rw [hup] at ih
    rcases hself t' path h with hsame | hp
    · rw [hsame]
      exact (ih h.above).imp_right (hdown path hcond.1)
    · exact .inr hp
  | case6 path => exact hself _ path h

end FileTree

/-! ## Locations -/

/-- A place as it can be: names one below the other. -/
def Place.Named (p : Place) : Prop := ∀ name ∈ p, name ≠ "" ∧ name ≠ "." ∧ name ≠ ".." ∧ '/' ∉ name.toList

instance (p : Place) : Decidable p.Named := inferInstanceAs (Decidable (∀ name ∈ p, _))

namespace Location

theorem named_step {names : Place} {component : String} (h : names.Named) (hslash : '/' ∉ component.toList) :
    Place.Named (step names component) := by
  rw [step]
  split
  · exact h
  next hstay =>
  split
  · exact fun name hname => h name ((List.dropLast_sublist _).subset hname)
  next hup =>
    intro name hname
    rcases List.mem_append.1 hname with hname | hname
    · exact h name hname
    · obtain rfl := List.mem_singleton.1 hname
      exact ⟨fun h => hstay (.inl h), fun h => hstay (.inr h), hup, hslash⟩

/-- Whoever stands at a place of names finds every location to be one. -/
theorem named_ofPath {here : Place} (h : here.Named) (path : String) : (ofPath here path).names.Named := by
  have hcomponents : ∀ c ∈ Path.components path, '/' ∉ c.toList := by
    intro c hc
    obtain ⟨l, hl, rfl⟩ := List.mem_map.1 hc
    rw [String.toList_ofList]
    exact fun hslash => (mem_of_mem_split hl hslash).2 rfl
  have hfold : ∀ (cs : List String) (names : Place), names.Named → (∀ c ∈ cs, '/' ∉ c.toList) →
      Place.Named (cs.foldl step names) := by
    intro cs
    induction cs with
    | nil => exact fun _ hnames _ => hnames
    | cons c cs ih =>
      intro names hnames hcs
      exact ih _ (named_step hnames (hcs c List.mem_cons_self)) fun d hd => hcs d (List.mem_cons_of_mem _ hd)
  refine hfold _ _ ?_ hcomponents
  split
  · exact h
  · exact fun _ hname => absurd hname List.not_mem_nil

theorem named_parent {l : Location} (h : l.names.Named) : l.parent.names.Named :=
  fun name hname => h name ((List.dropLast_sublist _).subset hname)

theorem names_intercalate {p : Place} (h : p.Named) : Path.Chars.names ("/".intercalate p).toList = p := by
  induction p with
  | nil => rfl
  | cons name p ih =>
    obtain ⟨hne, -, -, hslash⟩ := h name List.mem_cons_self
    have hname : Path.Chars.names name.toList = [name] := by
      rw [Path.Chars.names_of_not_mem hslash (by simpa using hne), String.ofList_toList]
    have ih := ih fun other hother => h other (List.mem_cons_of_mem _ hother)
    cases p with
    | nil => simpa using hname
    | cons other p =>
      have hcons : ("/".intercalate (name :: other :: p)).toList =
          name.toList ++ '/' :: ("/".intercalate (other :: p)).toList := by
        simp [String.toList_intercalate]
      rw [hcons, Path.Chars.names_append, ih, hname]
      rfl

/-- The names in the text of a location are its names. -/
theorem names_text {l : Location} (h : l.names.Named) : Path.Chars.names l.text.toList = l.names := by
  rw [text, String.toList_append]
  split
  · rw [show "//".toList = ['/', '/'] from rfl, List.cons_append, List.cons_append, Path.Chars.names_cons,
      Path.Chars.names_cons, List.nil_append, names_intercalate h]
  · rw [show "/".toList = ['/'] from rfl, List.cons_append, Path.Chars.names_cons, List.nil_append,
      names_intercalate h]

theorem plain_text {l : Location} (h : l.names.Named) : Path.Plain l.text.toList := by
  intro name hname
  rw [names_text h] at hname
  obtain ⟨-, hdot, hup, -⟩ := h name hname
  exact ⟨hdot, hup⟩

/-- A location is written without `.` and `..`. -/
theorem components_text {l : Location} (h : l.names.Named) : ∀ c ∈ Path.components l.text, c ≠ "." ∧ c ≠ ".." := by
  intro c hc
  rw [← String.ofList_toList (s := l.text)] at hc
  exact FileTree.components_of_plain (plain_text h) hc

theorem isAbsolute_text (l : Location) : Path.isAbsolute l.text = true := by
  rw [Path.isAbsolute, text, String.toList_append]
  split <;> rfl

theorem startOf_text (here : Place) (l : Location) : FileTree.startOf here l.text = [] := by
  rw [FileTree.startOf, if_pos (isAbsolute_text l)]

end Location

/-! ## Directories on the way to a location -/

namespace FileTree

/-- Every entry is as it was, and what is new are directories on the way to a place. -/
def GrowsTo (t t' : FileTree) (p : Place) : Prop :=
  ∀ q, t'.get? q = t.get? q ∨ t.get? q = none ∧ t'.get? q = some .directory ∧ q <+: p

theorem createDirectories_growsTo {l : Location} (h : l.names.Named) (t : FileTree) (here : Place) :
    t.GrowsTo (t.createDirectories here l.text.toList).1 l.names := by
  intro q
  have hway := createDirectories_plain (Location.plain_text h) t here q
  rw [String.ofList_toList, Location.startOf_text, Location.names_text h, List.nil_append] at hway
  rcases t.createDirectories_grows here l.text.toList q with hsame | ⟨hnone, hdirectory⟩
  · exact .inl hsame
  · exact hway.imp_right fun hq => ⟨hnone, hdirectory, hq⟩

end FileTree
end VersionStamp
