/-
Trees that match but for what their files hold.

`SameUpTo R`: the same directories, and files in the same places whose contents
are related by `R`. Every path then leads to the same place in both (`find`), so
what is done to the one tree and to the other comes to the same: the same
refusal, or two trees that match again (`modify`, `createDirectories`).
-/
import VersionStamp.Files.Directories

namespace VersionStamp.FileTree

/-- The same directories, and files in the same places with related contents. -/
def SameUpTo (R : ByteArray → ByteArray → Prop) (t t' : FileTree) : Prop :=
  ∀ p, t.get? p = none ∧ t'.get? p = none ∨ t.get? p = some .directory ∧ t'.get? p = some .directory ∨
    ∃ c c', t.get? p = some (.file c) ∧ t'.get? p = some (.file c') ∧ R c c'

namespace SameUpTo

variable {R : ByteArray → ByteArray → Prop} {t t' : FileTree}

theorem refl (hR : ∀ c, R c c) (t : FileTree) : SameUpTo R t t := by
  intro p
  cases hp : t.get? p with
  | none => exact .inl ⟨rfl, rfl⟩
  | some e =>
    cases e with
    | directory => exact .inr (.inl ⟨rfl, rfl⟩)
    | file c => exact .inr (.inr ⟨c, c, rfl, rfl, hR c⟩)

theorem isSome_eq (h : SameUpTo R t t') (p : Place) : (t.get? p).isSome = (t'.get? p).isSome := by
  obtain ⟨hp, hp'⟩ | ⟨hp, hp'⟩ | ⟨_, _, hp, hp', -⟩ := h p <;> simp [hp, hp']

/-- The same is put in the same place. -/
theorem put (h : SameUpTo R t t') (p : Place) {e e' : Entry}
    (he : e = .directory ∧ e' = .directory ∨ ∃ c c', e = .file c ∧ e' = .file c' ∧ R c c') :
    SameUpTo R (t.put p e) (t'.put p e') := by
  intro q
  by_cases hroot : q = []
  · subst hroot
    exact .inr (.inl ⟨rfl, rfl⟩)
  by_cases hq : q = p
  · subst hq
    rw [get?_put_self t hroot, get?_put_self t' hroot]
    obtain ⟨rfl, rfl⟩ | ⟨c, c', rfl, rfl, hc⟩ := he
    · exact .inr (.inl ⟨rfl, rfl⟩)
    · exact .inr (.inr ⟨c, c', rfl, rfl, hc⟩)
  · rw [get?_put_other t e hq, get?_put_other t' e' hq]
    exact h q

/-! ## Where paths lead -/

theorem enter (h : SameUpTo R t t') (here : Place) (component : String) :
    t.enter here component = t'.enter here component := by
  simp only [FileTree.enter, h.isSome_eq]
  obtain ⟨hp, hp'⟩ | ⟨hp, hp'⟩ | ⟨_, _, hp, hp', -⟩ := h here <;> rw [hp, hp']

theorem follow (h : SameUpTo R t t') (here : Place) (components : List String) :
    t.follow here components = t'.follow here components := by
  induction components generalizing here with
  | nil => rfl
  | cons c cs ih =>
    simp only [FileTree.follow, h.enter]
    cases t'.enter here c with
    | error e => rfl
    | ok next => exact ih next

theorem find (h : SameUpTo R t t') (here : Place) (path : String) : t.find here path = t'.find here path := by
  simp only [FileTree.find, h.follow]

theorem holds (h : SameUpTo R t t') (here : Place) (path : String) : t.holds here path = t'.holds here path := by
  simp only [FileTree.holds, h.find]

theorem isDirectory (h : SameUpTo R t t') (here : Place) (path : String) :
    t.isDirectory here path = t'.isDirectory here path := by
  simp only [FileTree.isDirectory, h.find]
  cases t'.find here path with
  | error e => rfl
  | ok p => obtain ⟨hp, hp'⟩ | ⟨hp, hp'⟩ | ⟨_, _, hp, hp', -⟩ := h p <;> simp only [hp, hp']

theorem findParent (h : SameUpTo R t t') (here : Place) (components : List String) :
    t.findParent here components = t'.findParent here components := by
  simp only [FileTree.findParent, h.follow]
  cases t'.follow here components.dropLast with
  | error e => rfl
  | ok p => obtain ⟨hp, hp'⟩ | ⟨hp, hp'⟩ | ⟨_, _, hp, hp', -⟩ := h p <;> simp only [hp, hp']

/-! ## Writing -/

/-- The same file is found for writing, or the same is in the way. -/
theorem target (h : SameUpTo R t t') (hempty : R .empty .empty) (here : Place) (components : List String) :
    (∃ e, t.target here components = .error e ∧ t'.target here components = .error e) ∨
      ∃ p c c', t.target here components = .ok (p, c) ∧ t'.target here components = .ok (p, c') ∧ R c c' := by
  simp only [FileTree.target, h.findParent]
  cases t'.findParent here components with
  | error e => exact .inl ⟨e, rfl, rfl⟩
  | ok found =>
    obtain ⟨parent, name⟩ := found
    by_cases hname : name = "" ∨ name = "." ∨ name = ".."
    · simp only [if_pos hname]
      exact .inl ⟨_, rfl, rfl⟩
    by_cases hlong : tooLong name = true
    · simp only [if_neg hname, if_pos hlong]
      exact .inl ⟨_, rfl, rfl⟩
    simp only [if_neg hname, if_neg hlong]
    obtain ⟨hp, hp'⟩ | ⟨hp, hp'⟩ | ⟨c, c', hp, hp', hc⟩ := h (parent ++ [name])
    · rw [hp, hp']
      exact .inr ⟨_, _, _, rfl, rfl, hempty⟩
    · rw [hp, hp']
      exact .inl ⟨_, rfl, rfl⟩
    · rw [hp, hp']
      exact .inr ⟨_, c, c', rfl, rfl, hc⟩

theorem modify (h : SameUpTo R t t') (hempty : R .empty .empty) {f f' : ByteArray → ByteArray}
    (hf : ∀ c c', R c c' → R (f c) (f' c')) (here : Place) (path : String) :
    (∃ e, t.modify here path f = .error e ∧ t'.modify here path f' = .error e) ∨
      ∃ s s', t.modify here path f = .ok s ∧ t'.modify here path f' = .ok s' ∧ SameUpTo R s s' := by
  simp only [FileTree.modify]
  cases accept path with
  | error e => exact .inl ⟨e, rfl, rfl⟩
  | ok u =>
    obtain ⟨e, he, he'⟩ | ⟨p, c, c', hp, hp', hc⟩ := h.target hempty (startOf here path) (Path.components path)
    · simp only [he, he', refuse]
      exact .inl ⟨_, rfl, rfl⟩
    · simp only [hp, hp', refuse]
      exact .inr ⟨_, _, rfl, rfl, h.put p (.inr ⟨_, _, rfl, rfl, hf c c' hc⟩)⟩

/-! ## Making directories -/

theorem makeDirectory (h : SameUpTo R t t') (here : Place) (path : String) :
    (∃ e, t.makeDirectory here path = .error e ∧ t'.makeDirectory here path = .error e) ∨
      ∃ s s', t.makeDirectory here path = .ok s ∧ t'.makeDirectory here path = .ok s' ∧ SameUpTo R s s' := by
  simp only [FileTree.makeDirectory]
  cases accept path with
  | error e => exact .inl ⟨e, rfl, rfl⟩
  | ok u =>
    simp only [makeAt, h.findParent]
    cases t'.findParent (startOf here path) (withoutTrailing (Path.components path)) with
    | error e => exact .inl ⟨_, rfl, rfl⟩
    | ok found =>
      obtain ⟨parent, name⟩ := found
      simp only [h.isSome_eq]
      by_cases hname : name = "" ∨ name = "." ∨ name = ".."
      · simp only [if_pos hname]
        exact .inl ⟨_, rfl, rfl⟩
      by_cases hlong : tooLong name = true
      · simp only [if_neg hname, if_pos hlong]
        exact .inl ⟨_, rfl, rfl⟩
      by_cases hthere : (t'.get? (parent ++ [name])).isSome = true
      · simp only [if_neg hname, if_neg hlong, if_pos hthere]
        exact .inl ⟨_, rfl, rfl⟩
      · simp only [if_neg hname, if_neg hlong, if_neg hthere]
        exact .inr ⟨_, _, rfl, rfl, h.put _ (.inl ⟨rfl, rfl⟩)⟩

theorem ensureDirectory (h : SameUpTo R t t') (here : Place) (path : String) :
    ∃ s s' result, t.ensureDirectory here path = (s, result) ∧ t'.ensureDirectory here path = (s', result) ∧
      SameUpTo R s s' := by
  simp only [FileTree.ensureDirectory]
  obtain ⟨e, he, he'⟩ | ⟨s, s', hs, hs', hsame⟩ := h.makeDirectory here path
  · rw [he, he']
    cases e with
    | embeddedNul => exact ⟨t, t', _, rfl, rfl, h⟩
    | refused cause p =>
      simp only [h.isDirectory]
      split
      · exact ⟨t, t', _, rfl, rfl, h⟩
      · exact ⟨t, t', _, rfl, rfl, h⟩
  · rw [hs, hs']
    exact ⟨s, s', _, rfl, rfl, hsame⟩

theorem createDirectories (h : SameUpTo R t t') (here : Place) (path : List Char) :
    ∃ s s' result, t.createDirectories here path = (s, result) ∧ t'.createDirectories here path = (s', result) ∧
      SameUpTo R s s' := by
  induction hlength : path.length using Nat.strongRecOn generalizing path with
  | ind n ih =>
  rw [FileTree.createDirectories.eq_def t, FileTree.createDirectories.eq_def t']
  simp only [h.holds]
  by_cases hup : (Path.Chars.above path).1 ≠ [] ∧ (Path.Chars.above path).2 ≠ [] ∧
      t'.holds here (String.ofList (Path.Chars.above path).1) = false
  · have hshorter : (Path.Chars.above path).1.length < n := hlength ▸ Path.Chars.length_above_lt hup.2.1
    obtain ⟨s, s', result, hs, hs', hsame⟩ := ih _ hshorter (Path.Chars.above path).1 rfl
    rw [dif_pos hup, dif_pos hup, hs, hs']
    -- Where the directory above is there in the end, it goes on the same way.
    have hlast : ∀ last : List Char, ∃ u u' result,
        (if last = ['.'] then (s, Except.ok ()) else s.ensureDirectory here (String.ofList path)) = (u, result) ∧
          (if last = ['.'] then (s', Except.ok ()) else s'.ensureDirectory here (String.ofList path)) = (u', result) ∧
          SameUpTo R u u' := by
      intro last
      by_cases hdot : last = ['.']
      · rw [if_pos hdot, if_pos hdot]
        exact ⟨s, s', _, rfl, rfl, hsame⟩
      · rw [if_neg hdot, if_neg hdot]
        exact hsame.ensureDirectory here _
    cases result with
    | ok u => exact hlast _
    | error e =>
      cases e with
      | embeddedNul => exact ⟨s, s', _, rfl, rfl, hsame⟩
      | refused cause p =>
        cases cause with
        | entryExists => exact hlast _
        | noEntry | notDirectory | isDirectory | nameTooLong => exact ⟨s, s', _, rfl, rfl, hsame⟩
  · rw [dif_neg hup, dif_neg hup]
    exact h.ensureDirectory here _

end SameUpTo
end VersionStamp.FileTree
