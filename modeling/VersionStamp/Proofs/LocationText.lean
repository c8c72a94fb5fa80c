/-
The text of a location, and what it leads to.

A location is the root, or the entry of some name in the directory above it
(`eq_child_or_root`), and so is its text: the directory above is what stands in front of
the last slash (`text_parent`), and an entry is looked for by putting its name behind
one (`join_text`). It is found exactly if the names lead down to it from directory to
directory (`find_child_iff`).
-/
import VersionStamp.Proofs.LogTrail

namespace VersionStamp

/-! ## In front of the last slash -/

/-- What stands in front of the last component of a path. -/
def Path.front (path : String) : String := String.ofList (Path.Chars.split path.toList).1

namespace Path.Chars

/-- A path is cut at its last slash; the slashes in front of that one go with it, unless there is nothing else. -/
theorem split_of_slash (front : List Char) {last : List Char} (h : '/' ∉ last) :
    split (front ++ '/' :: last) =
      (if (front.reverse.dropWhile (· = '/')).reverse = [] then front ++ ['/']
        else (front.reverse.dropWhile (· = '/')).reverse, last) := by
  have hlast : ∀ c ∈ last.reverse, decide (c ≠ '/') = true := by
    intro c hc
    refine decide_eq_true ?_
    rintro rfl
    exact h (List.mem_reverse.1 hc)
  have hreverse : (front ++ '/' :: last).reverse = last.reverse ++ '/' :: front.reverse := by simp
  have htake : (front ++ '/' :: last).reverse.takeWhile (· ≠ '/') = last.reverse := by
    rw [hreverse, List.takeWhile_append_of_pos hlast, List.takeWhile_cons_of_neg (by simp), List.append_nil]
  have hdrop : (front ++ '/' :: last).reverse.dropWhile (· ≠ '/') = '/' :: front.reverse := by
    rw [hreverse, List.dropWhile_append_of_pos hlast, List.dropWhile_cons_of_neg (by simp)]
  have hbare : (front ++ ['/']).reverse.dropWhile (· = '/') = front.reverse.dropWhile (· = '/') := by
    rw [List.reverse_append, List.reverse_singleton, List.singleton_append, List.dropWhile_cons_of_pos (by simp)]
  simp only [split, htake, hdrop, List.reverse_reverse, List.reverse_cons, hbare]

end Path.Chars

namespace Location

variable {l : Location} {name : String}

/-- The entry of that name in a directory. -/
def child (l : Location) (name : String) : Location := { l with names := l.names ++ [name] }

@[simp] theorem names_child (l : Location) (name : String) : (l.child name).names = l.names ++ [name] := rfl

theorem eq_child_or_root (l : Location) : l.names = [] ∨ ∃ name, l = l.parent.child name := by
  obtain ⟨doubled, names⟩ := l
  rcases List.eq_nil_or_concat' names with rfl | ⟨front, name, rfl⟩
  · exact .inl rfl
  · exact .inr ⟨name, by simp [parent, child]⟩

theorem intercalate_concat {front : List String} (h : front ≠ []) (name : String) :
    "/".intercalate (front ++ [name]) = "/".intercalate front ++ "/" ++ name := by
  induction front with
  | nil => exact absurd rfl h
  | cons first front ih =>
    cases front with
    | nil => rfl
    | cons second front =>
      have hrest : second :: front ++ [name] ≠ [] := by simp
      rw [List.cons_append, String.intercalate_cons_of_ne_nil hrest, ih (List.cons_ne_nil second front),
        String.intercalate_cons_of_ne_nil (List.cons_ne_nil second front)]
      simp only [String.append_assoc]

theorem text_ne_empty (l : Location) : l.text ≠ "" := by
  intro hempty
  rw [text, String.append_eq_empty_iff] at hempty
  obtain ⟨hroot, -⟩ := hempty
  cases hdoubled : l.doubled <;> simp [hdoubled] at hroot

theorem text_of_root (h : l.names = []) : l.text = if l.doubled then "//" else "/" := by
  rw [text, h]
  cases l.doubled <;> rfl

theorem text_child_of_root (h : l.names = []) (name : String) : (l.child name).text = l.text ++ name := by
  rw [text_of_root h, text, names_child, h, List.nil_append, String.intercalate_singleton]
  rfl

theorem text_child (h : l.names ≠ []) (name : String) : (l.child name).text = l.text ++ "/" ++ name := by
  rw [text, text, names_child, intercalate_concat h]
  simp only [child, String.append_assoc]
  rfl

/-- A directory other than the root ends with no slash. -/
theorem getLast?_text (h : l.names.Named) (hroot : l.names ≠ []) : l.text.toList.getLast? ≠ some '/' := by
  obtain hnil | ⟨name, hl⟩ := eq_child_or_root l
  · exact absurd hnil hroot
  generalize l.parent = p at hl
  subst hl
  obtain ⟨hne, -, -, hslash⟩ := h name (by simp)
  have hends : ∃ before, (p.child name).text = before ++ name := by
    by_cases hp : p.names = []
    · exact ⟨p.text, text_child_of_root hp name⟩
    · exact ⟨p.text ++ "/", text_child hp name⟩
  obtain ⟨before, hbefore⟩ := hends
  rw [hbefore, String.toList_append, List.getLast?_append_of_ne_nil _ (by simpa using hne)]
  exact fun hlast => hslash (List.mem_of_getLast? hlast)

/-- The text of the directory above is what stands in front of the last name. -/
theorem text_parent (h : l.names.Named) : l.parent.text = Path.front l.text := by
  obtain hnil | ⟨name, hl⟩ := eq_child_or_root l
  · have hself : l.parent.text = l.text := by rw [parent, hnil, text, text, hnil]; rfl
    rw [hself, text_of_root hnil]
    cases l.doubled <;> decide
  have hp : l.parent.names.Named := named_parent h
  generalize l.parent = p at hl hp
  subst hl
  obtain ⟨-, -, -, hslash⟩ := h name (by simp)
  rw [Path.front]
  by_cases hroot : p.names = []
  · rw [text_child_of_root hroot, text_of_root hroot, String.toList_append]
    cases p.doubled
    · exact congrArg (fun cs => String.ofList cs.1) (Path.Chars.split_of_slash [] hslash).symm
    · exact congrArg (fun cs => String.ofList cs.1) (Path.Chars.split_of_slash ['/'] hslash).symm
  · have htext : (p.child name).text.toList = p.text.toList ++ '/' :: name.toList := by
      rw [text_child hroot]
      simp
    have hbare : (p.text.toList.reverse.dropWhile (· = '/')).reverse = p.text.toList := by
      rw [List.reverse_eq_iff]
      cases hrev : p.text.toList.reverse with
      | nil => rfl
      | cons c rest =>
        refine List.dropWhile_cons_of_neg ?_
        have hlast := getLast?_text hp hroot
        rw [← List.head?_reverse, hrev] at hlast
        simpa using hlast
    have hne : p.text.toList ≠ [] := by
      intro hempty
      exact text_ne_empty p (String.toList_eq_nil_iff.1 hempty)
    rw [htext, Path.Chars.split_of_slash _ hslash, hbare, if_neg hne, String.ofList_toList]

/-- What is looked for in a directory by its name is the entry of that name. -/
theorem join_text (h : l.names.Named) (hname : '/' ∉ name.toList) : Path.join l.text name = (l.child name).text := by
  have hrelative : Path.isAbsolute name = false := by
    rw [Path.isAbsolute, decide_eq_false_iff_not]
    exact fun hhead => hname (List.mem_of_mem_head? hhead)
  rw [Path.join, if_neg (by simp [hrelative])]
  by_cases hroot : l.names = []
  · have hends : l.text.toList.getLast? = some '/' := by
      rw [text_of_root hroot]
      cases l.doubled <;> rfl
    rw [if_pos (.inr hends), text_child_of_root hroot]
  · rw [if_neg (not_or.2 ⟨text_ne_empty l, getLast?_text h hroot⟩), text_child hroot]

end Location

/-! ## What a location leads to -/

namespace FileTree

variable {t : FileTree} {here p : Place} {name : String}

theorem enter_plain_iff {c : String} (hc : c ≠ "." ∧ c ≠ "..") :
    t.enter here c = .ok p ↔ t.get? here = some .directory ∧ (c = "" ∧ p = here ∨
      c ≠ "" ∧ ¬tooLong c = true ∧ (t.get? (here ++ [c])).isSome = true ∧ p = here ++ [c]) := by
  constructor
  · intro h
    obtain ⟨hdir, ⟨hstay, rfl⟩ | ⟨-, hup, -⟩ | ⟨hname, hshort, hthere, rfl⟩⟩ := enter_eq_ok h
    · exact ⟨hdir, .inl ⟨hstay.resolve_right hc.1, rfl⟩⟩
    · exact absurd hup hc.2
    · exact ⟨hdir, .inr ⟨fun hempty => hname (.inl hempty), hshort, hthere, rfl⟩⟩
  · rintro ⟨hdir, ⟨rfl, rfl⟩ | ⟨hne, hshort, hthere, rfl⟩⟩
    · simp [enter, hdir]
    · exact enter_of_isSome hdir (by simp [hne, hc]) hshort hthere

/-- The names lead from directory to directory, as far as there is an entry of the last name. -/
structure LeadsDown (t : FileTree) (here : Place) (names : List String) (name : String) : Prop where
  directory : ∀ front, front <+: names → t.get? (here ++ front) = some .directory
  short : ∀ c ∈ names ++ [name], ¬tooLong c = true
  entry : (t.get? (here ++ names ++ [name])).isSome = true

theorem leadsDown_nil_iff :
    t.LeadsDown here [] name ↔
      t.get? here = some .directory ∧ ¬tooLong name = true ∧ (t.get? (here ++ [name])).isSome = true := by
  constructor
  · intro h
    exact ⟨by simpa using h.directory [] (List.prefix_refl _), by simpa using h.short, by simpa using h.entry⟩
  · rintro ⟨hdir, hshort, hthere⟩
    refine ⟨fun front hfront => ?_, by simpa using hshort, by simpa using hthere⟩
    obtain rfl := List.prefix_nil.1 hfront
    simpa using hdir

theorem leadsDown_cons_iff {c : String} {names : List String} :
    t.LeadsDown here (c :: names) name ↔
      t.get? here = some .directory ∧ ¬tooLong c = true ∧ t.LeadsDown (here ++ [c]) names name := by
  constructor
  · intro h
    refine ⟨by simpa using h.directory [] List.nil_prefix, h.short c (by simp), fun front hfront => ?_, fun d hd => ?_, ?_⟩
    · simpa using h.directory (c :: front) (List.cons_prefix_cons.2 ⟨rfl, hfront⟩)
    · exact h.short d (List.mem_cons_of_mem c hd)
    · simpa using h.entry
  · rintro ⟨hdir, hshort, h⟩
    refine ⟨fun front hfront => ?_, fun d hd => ?_, by simpa using h.entry⟩
    · cases front with
      | nil => simpa using hdir
      | cons d front =>
        obtain ⟨rfl, hrest⟩ := List.cons_prefix_cons.1 hfront
        simpa using h.directory front hrest
    · rcases List.mem_cons.1 hd with rfl | hd
      · exact hshort
      · exact h.short d hd

theorem follow_cons_iff {c : String} {cs : List String} :
    t.follow here (c :: cs) = .ok p ↔ ∃ next, t.enter here c = .ok next ∧ t.follow next cs = .ok p := by
  rw [follow]
  cases t.enter here c with
  | error r => simp
  | ok next => simp

/-- Plain components lead to the entry of the last name, if they lead anywhere. -/
theorem follow_plain_iff {cs : List String} (hcs : ∀ c ∈ cs, c ≠ "." ∧ c ≠ "..")
    (hname : ¬(name = "" ∨ name = "." ∨ name = "..")) :
    t.follow here (cs ++ [name]) = .ok p ↔
      p = here ++ cs.filter (· ≠ "") ++ [name] ∧ t.LeadsDown here (cs.filter (· ≠ "")) name := by
  simp only [not_or] at hname
  induction cs generalizing here with
  | nil =>
    rw [List.nil_append, List.filter_nil, List.append_nil, leadsDown_nil_iff, follow_cons_iff]
    simp only [follow, Except.ok.injEq, exists_eq_right]
    rw [enter_plain_iff hname.2]
    constructor
    · rintro ⟨hdir, ⟨hempty, -⟩ | ⟨-, hshort, hthere, rfl⟩⟩
      · exact absurd hempty hname.1
      · exact ⟨rfl, hdir, hshort, hthere⟩
    · rintro ⟨rfl, hdir, hshort, hthere⟩
      exact ⟨hdir, .inr ⟨hname.1, hshort, hthere, rfl⟩⟩
  | cons c cs ih =>
    have ih := fun here => @ih here fun d hd => hcs d (List.mem_cons_of_mem c hd)
    rw [List.cons_append, follow_cons_iff]
    by_cases hc : c = ""
    · subst hc
      rw [List.filter_cons_of_neg (by simp)]
      constructor
      · rintro ⟨next, hnext, hrest⟩
        obtain ⟨-, ⟨-, rfl⟩ | ⟨hne, -⟩⟩ := (enter_plain_iff (by decide)).1 hnext
        · exact (ih _).1 hrest
        · exact absurd rfl hne
      · intro h
        have hdir : t.get? here = some .directory := by simpa using h.2.directory [] List.nil_prefix
        exact ⟨here, (enter_plain_iff (by decide)).2 ⟨hdir, .inl ⟨rfl, rfl⟩⟩, (ih here).2 h⟩
    · rw [List.filter_cons_of_pos (by simpa using hc), leadsDown_cons_iff, List.append_cons here c]
      constructor
      · rintro ⟨next, hnext, hrest⟩
        obtain ⟨hdir, ⟨hempty, -⟩ | ⟨-, hshort, -, rfl⟩⟩ := (enter_plain_iff (hcs c List.mem_cons_self)).1 hnext
        · exact absurd hempty hc
        · obtain ⟨hp, hdown⟩ := (ih _).1 hrest
          exact ⟨hp, hdir, hshort, hdown⟩
      · rintro ⟨hp, hdir, hshort, hdown⟩
        have hthere : t.get? (here ++ [c]) = some .directory := by simpa using hdown.directory [] List.nil_prefix
        refine ⟨here ++ [c], (enter_plain_iff (hcs c List.mem_cons_self)).2 ⟨hdir, .inr ⟨hc, hshort, ?_, rfl⟩⟩,
          (ih _).2 ⟨hp, hdown⟩⟩
        rw [hthere]
        rfl

/-- A location leads to the entry of its names, if the system takes its text and there is such an entry. -/
theorem find_child_iff {l : Location} (h : (l.child name).names.Named) :
    t.find here (l.child name).text = .ok p ↔
      accept (l.child name).text = .ok () ∧ p = l.names ++ [name] ∧ t.LeadsDown [] l.names name := by
  obtain ⟨hne, hdot, hup, hslash⟩ := h name (by simp)
  have hlast : (Path.components (l.child name).text).getLast? = some name := by
    rw [← Location.join_text (fun other hother => h other (List.mem_append_left _ hother)) hslash]
    exact Path.getLast?_components_join l.text hslash
  obtain ⟨cs, hcs⟩ := List.getLast?_eq_some_iff.1 hlast
  have hnames : cs.filter (· ≠ "") = l.names := by
    have hall : (Path.components (l.child name).text).filter (· ≠ "") = l.names ++ [name] := Location.names_text h
    rw [hcs, List.filter_append, List.filter_cons_of_pos (by simpa using hne), List.filter_nil] at hall
    exact List.append_cancel_right hall
  have hfront : ∀ c ∈ cs, c ≠ "." ∧ c ≠ ".." := by
    intro c hc
    refine Location.components_text h c ?_
    rw [hcs]
    exact List.mem_append_left _ hc
  rw [find_eq_ok_iff, Location.startOf_text, hcs, follow_plain_iff hfront (by simp [hne, hdot, hup]), hnames,
    List.nil_append]

end FileTree
end VersionStamp
