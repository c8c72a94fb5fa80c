/-
The nearest checkout.

The way up from a directory is taken on its text, by what stands in front of the last
slash, and ends at the root after as many steps as there are names
(`Location.front_iterate_text`, `Location.front_fixed_iff`). What makes a directory a
checkout is said of the tree alone (`isMarked_iff`). `nearest_checkout_is_found` says
that the search gives the first checkout on the way up, or the start where there is none.
-/
import VersionStamp.Proofs.LocationText
import VersionStamp.Proofs.WhereOneStands

namespace VersionStamp

/-! ## The way up -/

namespace Location

variable {l : Location}

@[simp] theorem names_parent (l : Location) : l.parent.names = l.names.dropLast := rfl

theorem parent_of_root (h : l.names = []) : l.parent = l := by
  obtain ⟨doubled, names⟩ := l
  subst h
  rfl

theorem names_iterate_parent (l : Location) (k : Nat) : (parent^[k] l).names = l.names.take (l.names.length - k) := by
  induction k with
  | zero => simp
  | succ k ih =>
    have hfewer : min (min (l.names.length - k) l.names.length - 1) (l.names.length - k) = l.names.length - (k + 1) := by
      omega
    rw [Function.iterate_succ_apply', names_parent, ih, List.dropLast_eq_take, List.take_take, List.length_take, hfewer]

theorem named_iterate_parent (h : l.names.Named) (k : Nat) : (parent^[k] l).names.Named := by
  rw [names_iterate_parent]
  exact fun name hname => h name (List.mem_of_mem_take hname)

/-- One directory further up is what stands in front of one more name. -/
theorem front_iterate_text (h : l.names.Named) (k : Nat) : Path.front^[k] l.text = (parent^[k] l).text := by
  induction k with
  | zero => rfl
  | succ k ih => rw [Function.iterate_succ_apply', Function.iterate_succ_apply', ih, text_parent (named_iterate_parent h k)]

theorem text_inj {l' : Location} (h : l.names.Named) (h' : l'.names.Named) (htext : l.text = l'.text) : l = l' := by
  rw [← ofPath_text h [], htext, ofPath_text h' []]

/-- The way up ends at the root. -/
theorem front_fixed_iff (h : l.names.Named) (k : Nat) :
    Path.front^[k + 1] l.text = Path.front^[k] l.text ↔ l.names.length ≤ k := by
  rw [front_iterate_text h, front_iterate_text h]
  constructor
  · intro htext
    have hsame := congrArg (fun l => l.names.length) (text_inj (named_iterate_parent h (k + 1)) (named_iterate_parent h k) htext)
    simp only [names_iterate_parent, List.length_take] at hsame
    omega
  · intro hlength
    have hroot : (parent^[k] l).names = [] := by
      rw [names_iterate_parent, Nat.sub_eq_zero_of_le hlength, List.take_zero]
    rw [Function.iterate_succ_apply', parent_of_root hroot]

end Location

namespace Checkout

open Location

/-! ## Marked directories -/

/-- A directory with an entry `.git`, to which there is a path that the system takes. -/
structure Marked (t : FileTree) (l : Location) : Prop where
  askable : FileTree.accept (l.child ".git").text = .ok ()
  down : t.LeadsDown [] l.names ".git"

theorem isMarked_iff {t : FileTree} (here : Place) {l : Location} (h : l.names.Named) :
    isMarked t here l = true ↔ Marked t l := by
  have hnamed : (l.child ".git").names.Named := by
    intro name hname
    rcases List.mem_append.1 hname with hname | hname
    · exact h name hname
    · obtain rfl := List.mem_singleton.1 hname
      decide
  rw [isMarked, join_text h (by decide), FileTree.holds]
  constructor
  · intro hholds
    split at hholds
    next p hp =>
      obtain ⟨haskable, -, hdown⟩ := (FileTree.find_child_iff hnamed).1 hp
      exact ⟨haskable, hdown⟩
    · cases hholds
  · intro hmarked
    rw [(FileTree.find_child_iff hnamed).2 ⟨hmarked.askable, rfl, hmarked.down⟩]

/-! ## The first on the way up -/

section

variable {marked : Location → Bool} {l root : Location}

/-- What is not marked leaves the matter to the directory above. -/
theorem nearest_parent (h : marked l = false) : nearest marked l.parent = nearest marked l := by
  by_cases hroot : l.names = []
  · rw [parent_of_root hroot]
  · conv_rhs => rw [nearest, if_neg (by simp [h]), if_neg hroot]

theorem nearest_iterate {k : Nat} (h : ∀ j < k, marked (parent^[j] l) = false) :
    nearest marked (parent^[k] l) = nearest marked l := by
  induction k with
  | zero => rfl
  | succ k ih =>
    rw [Function.iterate_succ_apply', nearest_parent (h k k.lt_succ_self), ih fun j hj => h j (hj.trans k.lt_succ_self)]

theorem nearest_is_first (h : nearest marked l = some root) :
    ∃ steps, root = parent^[steps] l ∧ marked root = true ∧ ∀ k < steps, marked (parent^[k] l) = false := by
  fun_induction nearest marked l with
  | case1 l hmarked =>
    obtain rfl := Option.some.inj h
    exact ⟨0, rfl, hmarked, fun k hk => absurd hk k.not_lt_zero⟩
  | case2 => cases h
  | case3 l hmarked hroot ih =>
    obtain ⟨steps, hsteps, hfound, hbelow⟩ := ih h
    refine ⟨steps + 1, hsteps, hfound, fun k hk => ?_⟩
    cases k with
    | zero => simpa using hmarked
    | succ k => exact hbelow k (Nat.lt_of_succ_lt_succ hk)

theorem unmarked_of_nearest (h : nearest marked l = none) : marked l = false := by
  rw [nearest] at h
  split at h
  · cases h
  next hmarked => simpa using hmarked

theorem unmarked_above_of_nearest (h : nearest marked l = none) (k : Nat) : marked (parent^[k] l) = false := by
  induction k generalizing l with
  | zero => exact unmarked_of_nearest h
  | succ k ih => exact ih ((nearest_parent (unmarked_of_nearest h)).trans h)

end

/-! ## The search -/

/-- **The nearest checkout is found**, in every tree and from wherever one stands, if no NUL stands in a name behind a
`~`. The way up from the start, its home directory written out and made absolute, is taken by what stands in front of
the last slash, ends at the root, and not before. The result is the first directory on it that holds an entry `.git`,
and then it is the result for every directory up to that one; if no directory on it does, the result is the start. In
either case the result leads to itself, and is absolute and without `.` and `..`. -/
theorem nearest_checkout_is_found {w : World} (hhere : w.here.Named) {path : String} (hexpands : Expands path) :
    ∃ expanded start root, expandHome w path = .ok expanded ∧ start = ofPath w.here expanded ∧
      locate w path = .ok root ∧
      (∀ k, (parent^[k] start).text = Path.front^[k] start.text) ∧
      (∀ k, Path.front^[k + 1] start.text = Path.front^[k] start.text ↔ start.names.length ≤ k) ∧
      ((∃ steps, root = parent^[steps] start ∧ Marked w.files root ∧ (∀ k < steps, ¬Marked w.files (parent^[k] start)) ∧
          ∀ k ≤ steps, locate w (parent^[k] start).text = .ok root) ∨
        root = start ∧ ∀ k, ¬Marked w.files (parent^[k] start)) ∧
      locate w root.text = .ok root ∧ Path.isAbsolute root.text = true ∧
      ∀ c ∈ Path.components root.text, c ≠ "." ∧ c ≠ ".." := by
  obtain ⟨expanded, hexpanded⟩ := (exists_expandHome_iff (w := w)).2 hexpands
  have hlocate : locate w path = .ok (enclosing w (ofPath w.here expanded)) := by rw [locate, hexpanded]
  have hnamed := named_ofPath hhere expanded
  refine ⟨expanded, _, _, hexpanded, rfl, hlocate, fun k => (front_iterate_text hnamed k).symm,
    front_fixed_iff hnamed, ?_, locate_text hhere hlocate, isAbsolute_text _, components_text (named_enclosing w hnamed)⟩
  generalize ofPath w.here expanded = start at hnamed
  have hmarked : ∀ k, isMarked w.files w.here (parent^[k] start) = false ↔ ¬Marked w.files (parent^[k] start) := by
    intro k
    rw [← isMarked_iff w.here (named_iterate_parent hnamed k), Bool.not_eq_true]
  cases hnearest : nearest (isMarked w.files w.here) start with
  | none =>
    have hroot : enclosing w start = start := by rw [enclosing, hnearest, Option.getD_none]
    exact .inr ⟨hroot, fun k => (hmarked k).1 (unmarked_above_of_nearest hnearest k)⟩
  | some root =>
    have hroot : enclosing w start = root := by rw [enclosing, hnearest, Option.getD_some]
    obtain ⟨steps, hsteps, hfound, hbelow⟩ := nearest_is_first hnearest
    have hroots : root.names.Named := hsteps ▸ named_iterate_parent hnamed steps
    refine .inl ⟨steps, hroot.trans hsteps, hroot ▸ (isMarked_iff w.here hroots).1 hfound,
      fun k hk => (hmarked k).1 (hbelow k hk), fun k hk => ?_⟩
    have hsame := nearest_iterate fun j hj => hbelow j (hj.trans_le hk)
    rw [locate_of_named (named_iterate_parent hnamed k), hroot, enclosing, hsame, hnearest, Option.getD_some]

/-! ## One checkout in another -/

/-- A work tree in a checkout, for someone whose home it is. -/
def nested : World where
  files := { entries := [(["work"], .directory), (["work", ".git"], .directory), (["work", "sub"], .directory),
    (["work", "sub", ".git"], .file "gitdir: ..".toUTF8)] }
  here := ["work"]
  env := [("HOME", "//work/sub/")]
  now := .utc 0
  installation := "/"

/-- The inner checkout is found from below it, also by a path that leads nowhere, and from the directories in between. -/
theorem inner_checkout_is_found :
    locate nested "~/deep/../deeper/./file" = .ok { doubled := true, names := ["work", "sub"] } ∧
      locate nested "//work/sub/deeper" = .ok { doubled := true, names := ["work", "sub"] } := by
  have hexpands : Expands "~/deep/../deeper/./file" := expands_of_nulFree (by decide)
  obtain ⟨expanded, start, root, hexpanded, hstart, hlocate, -, -, hroot, -⟩ :=
    nearest_checkout_is_found (w := nested) (by decide) hexpands
  have hhome : expandHome nested "~/deep/../deeper/./file" = .ok "//work/sub/deep/../deeper/./file" := by decide
  obtain rfl := Except.ok.inj (hhome.symm.trans hexpanded)
  obtain rfl : start = { doubled := true, names := ["work", "sub", "deeper", "file"] } := hstart.trans (by decide)
  have hmarks := fun k => isMarked_iff (t := nested.files) nested.here
    (named_iterate_parent (l := { doubled := true, names := ["work", "sub", "deeper", "file"] }) (by decide) k)
  obtain ⟨steps, rfl, hmarked, hbelow, hsame⟩ | ⟨-, hnone⟩ := hroot
  · match steps with
    | 0 => exact absurd hmarked ((hmarks 0).not.1 (by decide))
    | 1 => exact absurd hmarked ((hmarks 1).not.1 (by decide))
    | 2 => exact ⟨hlocate, hsame 1 (by decide)⟩
    | steps + 3 => exact absurd ((hmarks 2).1 (by decide)) (hbelow 2 (by omega))
  · exact absurd ((hmarks 2).1 (by decide)) (hnone 2)

end Checkout
end VersionStamp
