/-
What becomes of paths that are refused.

Whatever refuses to make a directory or to write a file names the path it was
asked for, or one on the way there (`createDirectories_refused`,
`store_refused`), and directories apart the files are as they were
(`grows_of_store_error`). The words for a refusal hold one bracket of their own,
and no markup (`shown_message`). A path is looked up unless a NUL stands in the
name behind a `~` (`exists_locate_iff`).
-/
import VersionStamp.CommandLine.Perform
import VersionStamp.Proofs.HexNumerals
import VersionStamp.Proofs.LiteralText
import VersionStamp.Proofs.Logging

namespace VersionStamp

open Text (NulFree)

/-! ## Paths named in refusals -/

namespace FileTree

variable {t : FileTree} {here : Place} {path p : String} {r : Refusal}

theorem accept_refused (h : accept path = .error (.refused r p)) : p = path := by
  rw [accept] at h
  split at h
  · cases h
  split at h
  · cases h
    rfl
  split at h
  · cases h
    rfl
  · cases h

theorem refuse_refused {α : Type} {x : Except Refusal α} (h : refuse path x = .error (.refused r p)) : p = path := by
  cases x with
  | ok a => cases h
  | error e =>
    cases h
    rfl

theorem modify_refused {content : ByteArray → ByteArray} (h : t.modify here path content = .error (.refused r p)) :
    p = path := by
  rw [modify] at h
  split at h
  next e he =>
    cases h
    exact accept_refused he
  next =>
    split at h
    next e he =>
      cases h
      exact refuse_refused he
    next => cases h

theorem makeDirectory_refused (h : t.makeDirectory here path = .error (.refused r p)) : p = path := by
  rw [makeDirectory] at h
  split at h
  next e he =>
    cases h
    exact accept_refused he
  next => exact refuse_refused h

theorem ensureDirectory_refused {path : List Char}
    (h : (t.ensureDirectory here (String.ofList path)).2 = .error (.refused r p)) : p.toList <+: path := by
  rw [ensureDirectory] at h
  split at h
  · cases h
  · cases h
  next r' p' hmade =>
    split at h
    · cases h
    · cases h
      have hp := makeDirectory_refused hmade
      rw [← String.toList_inj, String.toList_ofList] at hp
      exact hp ▸ List.prefix_refl _

/-- A refusal to make directories names the path, or one of those above. -/
theorem createDirectories_refused {path : List Char} (h : (t.createDirectories here path).2 = .error (.refused r p)) :
    p.toList <+: path := by
  fun_induction createDirectories t here path with
  | case1 | case3 => cases h
  | case2 | case4 | case6 => exact ensureDirectory_refused h
  | case5 path up hcond _ t' e _ hup ih =>
    rw [hup] at ih
    exact (ih h).trans (Path.Chars.isPrefix_above path)

end FileTree

/-! ## The text of a location -/

namespace Location

theorem mem_intercalate_of_mem {separator l : List Char} {ls : List (List Char)} {c : Char} (hl : l ∈ ls) (hc : c ∈ l) :
    c ∈ separator.intercalate ls := by
  induction ls with
  | nil => cases hl
  | cons first ls ih =>
    by_cases hls : ls = []
    · subst hls
      rw [List.intercalate_singleton]
      exact List.mem_singleton.1 hl ▸ hc
    · rw [List.intercalate_cons_of_ne_nil hls, List.append_assoc, List.mem_append, List.mem_append]
      rcases List.mem_cons.1 hl with rfl | hl
      · exact .inl hc
      · exact .inr (.inr (ih hl))

/-- A location is written with its names and slashes. -/
theorem mem_text_iff {l : Location} {c : Char} :
    c ∈ l.text.toList ↔ c = '/' ∨ ∃ name ∈ l.names, c ∈ name.toList := by
  rw [text, String.toList_append, String.toList_intercalate, List.mem_append]
  constructor
  · intro h
    rcases h with hroot | hnames
    · left
      split at hroot
      · simpa using hroot
      · simpa using hroot
    · refine (Console.mem_intercalate hnames).imp_right fun hmem => ?_
      obtain ⟨l', hl', hc⟩ := hmem
      obtain ⟨name, hname, rfl⟩ := List.mem_map.1 hl'
      exact ⟨name, hname, hc⟩
  · intro h
    rcases h with rfl | ⟨name, hname, hc⟩
    · left
      split <;> simp
    · exact .inr (mem_intercalate_of_mem (List.mem_map_of_mem hname) hc)

theorem mem_names_ofPath {here : Place} {path name : String} (h : name ∈ (ofPath here path).names) :
    name ∈ here ∨ name ∈ Path.components path := by
  have hfold : ∀ (cs : List String) (names : Place), name ∈ cs.foldl step names → name ∈ names ∨ name ∈ cs := by
    intro cs
    induction cs with
    | nil => exact fun _ => .inl
    | cons c cs ih =>
      intro names hname
      rcases ih _ hname with hstep | hcs
      · rw [step] at hstep
        split at hstep
        · exact .inl hstep
        split at hstep
        · exact .inl ((List.dropLast_sublist _).subset hstep)
        · rcases List.mem_append.1 hstep with hnames | hc
          · exact .inl hnames
          · exact .inr (List.mem_singleton.1 hc ▸ List.mem_cons_self)
      · exact .inr (List.mem_cons_of_mem _ hcs)
  refine (hfold _ _ h).imp_left fun hstart => ?_
  split at hstart
  · exact hstart
  · cases hstart

/-- The text of a location is made of the characters of the path, and of the names of where one stands. -/
theorem mem_text_ofPath {here : Place} {path : String} {c : Char} (h : c ∈ (ofPath here path).text.toList) :
    c = '/' ∨ (∃ name ∈ here, c ∈ name.toList) ∨ c ∈ path.toList := by
  refine (mem_text_iff.1 h).imp_right fun hmem => ?_
  obtain ⟨name, hname, hc⟩ := hmem
  rcases mem_names_ofPath hname with hhere | hpath
  · exact .inl ⟨name, hhere, hc⟩
  · obtain ⟨l, hl, rfl⟩ := List.mem_map.1 hpath
    rw [String.toList_ofList] at hc
    exact .inr (Text.Chars.mem_of_mem_split hl hc).1

theorem mem_text_parent {l : Location} {c : Char} (h : c ∈ l.parent.text.toList) : c ∈ l.text.toList := by
  refine mem_text_iff.2 ((mem_text_iff.1 h).imp_right fun hmem => ?_)
  obtain ⟨name, hname, hc⟩ := hmem
  exact ⟨name, (List.dropLast_sublist _).subset hname, hc⟩

end Location

/-! ## Looking up a checkout -/

namespace Checkout

/-- No NUL stands in the name behind a `~` in front. -/
def Expands (path : String) : Prop :=
  path.toList.head? = some '~' → '\x00' ∉ path.toList.takeWhile (· ≠ '/')

theorem expands_of_nulFree {path : String} (h : NulFree path) : Expands path :=
  fun _ hmem => h ((List.takeWhile_sublist _).subset hmem)

theorem expands_text (l : Location) : Expands l.text := by
  intro hhead
  rw [Location.text, String.toList_append] at hhead
  split at hhead <;> cases hhead

theorem exists_expandHome_iff {path : String} {w : World} : (∃ p, expandHome w path = .ok p) ↔ Expands path := by
  rw [expandHome, Expands]
  split
  next cs hcs =>
    have htilde : (('~' :: cs).takeWhile (· ≠ '/')) = '~' :: cs.takeWhile (· ≠ '/') :=
      List.takeWhile_cons_of_pos (by decide)
    rw [hcs, htilde, List.head?_cons]
    dsimp only
    by_cases hname : cs.takeWhile (· ≠ '/') = []
    · rw [if_pos hname, hname]
      refine iff_of_true ?_ (fun _ => by decide)
      cases homeOf w <;> exact ⟨_, rfl⟩
    · rw [if_neg hname]
      by_cases hnul : '\x00' ∈ cs.takeWhile (· ≠ '/')
      · rw [if_pos (List.contains_iff_mem.2 hnul)]
        exact iff_of_false nofun fun h => h rfl (List.mem_cons_of_mem _ hnul)
      · rw [if_neg fun h => hnul (List.contains_iff_mem.1 h)]
        refine iff_of_true ⟨path, rfl⟩ fun _ hmem => ?_
        rcases List.mem_cons.1 hmem with hne | hmem
        · cases hne
        · exact hnul hmem
  next hother =>
    refine iff_of_true ⟨path, rfl⟩ fun hhead => ?_
    obtain ⟨cs, hcs⟩ := List.head?_eq_some_iff.1 hhead
    exact (hother cs hcs).elim

/-- A path leads to a checkout, be it only itself, unless a NUL stands in the name behind a `~`. -/
theorem exists_locate_iff {path : String} {w : World} : (∃ checkout, locate w path = .ok checkout) ↔ Expands path := by
  rw [← exists_expandHome_iff (w := w), locate]
  cases expandHome w path with
  | error e => exact iff_of_false nofun nofun
  | ok p => exact iff_of_true ⟨_, rfl⟩ ⟨_, rfl⟩

end Checkout

/-- Where the words and the environment hold no NUL, there is a checkout to be asked about. -/
theorem CommandLine.ResolveOptions.locate_startIn {o : ResolveOptions} {w : World} (henv : w.env.NulFree)
    (ho : ∀ directory ∈ o.directory, Checkout.Expands directory) :
    ∃ checkout, Checkout.locate w (o.startIn w) = .ok checkout := by
  rw [Checkout.exists_locate_iff, startIn, Settings.orElse]
  split
  · exact Checkout.expands_text _
  · cases hgiven : o.directory with
    | none => exact Checkout.expands_of_nulFree (henv.text _)
    | some directory => exact ho directory hgiven

/-! ## Storing -/

namespace Stamp

variable {info : VersionInfo} {path p : String} {w : World}

theorem store_ne_embeddedNul (h : NulFree (Location.ofPath w.here path).text) :
    (store info path w).2 ≠ .error .embeddedNul := by
  have hparent : NulFree (Location.ofPath w.here path).parent.text := fun hmem => h (Location.mem_text_parent hmem)
  have hmade := FileTree.createDirectories_ne_embeddedNul hparent w.files w.here
  simp only [store]
  split
  next t e he =>
    rw [he] at hmade
    intro hnul
    obtain rfl : e = .embeddedNul := by simpa using hnul
    exact hmade rfl
  next t _ _ =>
    split
    · nofun
    next e he =>
      intro hnul
      obtain rfl : e = .embeddedNul := by simpa using hnul
      exact FileTree.modify_ne_embeddedNul h _ _ _ he

/-- A file that cannot be stored is refused by its own path, or by one above. -/
theorem store_refused {r : Refusal} (h : (store info path w).2 = .error (.refused r p)) {c : Char}
    (hc : c ∈ p.toList) : c ∈ (Location.ofPath w.here path).text.toList := by
  simp only [store] at h
  split at h
  next t e he =>
    cases h
    have hmade := congrArg Prod.snd he
    exact Location.mem_text_parent ((FileTree.createDirectories_refused hmade).subset hc)
  next t _ _ =>
    split at h
    · cases h
    next e he =>
      cases h
      rwa [FileTree.modify_refused he] at hc

/-- When storing fails, all that is done is to make the directories above, as far as that goes. -/
theorem files_store_error {e : FileError} (h : (store info path w).2 = .error e) :
    (store info path w).1 =
      (w.files.createDirectories w.here (Location.ofPath w.here path).parent.text.toList).1 := by
  simp only [store] at h ⊢
  split
  next hmade => rw [hmade]
  next hmade =>
    rw [hmade] at h ⊢
    dsimp only at h
    split
    next hwrite =>
      rw [hwrite] at h
      cases h
    next => rfl

/-- When storing fails, there may be new directories, and nothing else. -/
theorem grows_of_store_error {e : FileError} (h : (store info path w).2 = .error e) :
    w.files.Grows (store info path w).1 := by
  rw [files_store_error h]
  exact w.files.createDirectories_grows w.here _

end Stamp

/-! ## The words for a refusal -/

namespace Text

theorem no_bracket_hexPadded (width n : Nat) : '[' ∉ (hexPadded width n).toList := by
  intro h
  obtain ⟨d, hd⟩ := mem_hexPadded h
  exact digitChar_cases (P := (· ≠ '[')) (by decide) (by decide) d hd.symm

theorem no_bracket_quotedChar (quote : Char) {c : Char} (hc : c ≠ '[') :
    '[' ∉ (quotedChar quote c).toList := by
  simp only [quotedChar]
  split
  · decide
  split
  · simpa using Ne.symm hc
  split
  · decide
  split
  · decide
  split
  · decide
  split
  · simpa using Ne.symm hc
  split
  · simpa using no_bracket_hexPadded 2 c.toNat
  split
  · simpa using no_bracket_hexPadded 4 c.toNat
  · simpa using no_bracket_hexPadded 8 c.toNat

/-- Quoting brings in no bracket. -/
theorem no_bracket_quoted {s : String} (h : '[' ∉ s.toList) : '[' ∉ (quoted s).toList := by
  have hquote : quoteFor s.toList ≠ '[' := by
    rw [quoteFor]
    split <;> decide
  intro hmem
  simp only [quoted, String.toList_append, String.toList_singleton, String.toList_join, List.mem_append,
    List.mem_singleton, List.mem_flatMap] at hmem
  rcases hmem with (hfront | ⟨l, hl, hc⟩) | hback
  · exact hquote hfront.symm
  · obtain ⟨c, hc', rfl⟩ := List.mem_map.1 hl
    have hne : c ≠ '[' := by
      rintro rfl
      exact h hc'
    exact no_bracket_quotedChar _ hne hc
  · exact hquote hback.symm

end Text

/-- One bracket is no markup if no tag can start with what stands behind it. -/
theorem Markup.free_of_one_bracket {front back : List Char} {c : Char} (hfront : '[' ∉ front)
    (hlast : front.getLast? ≠ some '\\') (hc : startsTag c = false) (hback : '[' ∉ c :: back) :
    Free (front ++ '[' :: c :: back) := by
  intro front' back' h
  obtain ⟨rfl, -, rfl⟩ := (List.append_cons_inj_of_notMem hfront hback).1 h
  refine ⟨?_, hlast⟩
  rintro ⟨d, body, rest, hcs, hd, -⟩
  obtain ⟨rfl, -⟩ : c = d ∧ back = body ++ ']' :: rest := by simpa using hcs
  rw [hc] at hd
  cases hd

theorem Console.shown_of_free {text : String} (h : Markup.Free text.toList) : Shown text := by
  obtain ⟨shown, hprint⟩ := Markup.print_plain (Markup.cut_plain_of_free h 0 0) 0
  refine ⟨Markup.exists_render_iff.1 ⟨_, hprint⟩, fun p hp => ?_⟩
  cases hprint.symm.trans hp
  nofun

/-- What is said of a refusal is shown, if the path holds no bracket: the only one is that before the number. -/
theorem FileError.shown_message {front p : String} (r : Refusal) (hfront : '[' ∉ front.toList)
    (hlast : front.toList.getLast? ≠ some '\\') (hp : '[' ∉ p.toList) :
    Console.Shown (front ++ (FileError.refused r p).message) := by
  have hcause : '[' ∉ (toString r.number ++ "] " ++ r.text ++ ": ").toList := by
    cases r <;> decide
  have hback : '[' ∉ 'E' :: ("rrno ".toList ++ (toString r.number ++ "] " ++ r.text ++ ": ").toList ++
      (Text.quoted p).toList) := by
    intro hmem
    rw [List.mem_cons, List.mem_append, List.mem_append] at hmem
    rcases hmem with he | (herrno | hmem) | hmem
    · cases he
    · exact absurd herrno (by decide)
    · exact hcause hmem
    · exact Text.no_bracket_quoted hp hmem
  refine Console.shown_of_free ?_
  have htext : (front ++ (FileError.refused r p).message).toList = front.toList ++ '[' :: 'E' ::
      ("rrno ".toList ++ (toString r.number ++ "] " ++ r.text ++ ": ").toList ++ (Text.quoted p).toList) := by
    simp [FileError.message]
  rw [htext]
  exact Markup.free_of_one_bracket hfront hlast (by decide) hback

end VersionStamp
