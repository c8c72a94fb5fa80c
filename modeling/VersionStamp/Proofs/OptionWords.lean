/-
How options are written as words.

`Spells` is the grammar of the words of a command whose options and arguments
may be mixed, and `sort_eq_ok_iff` says that sorting reads exactly the words of
this grammar: it gives the settings in the order in which they are written, and
the arguments in theirs.
-/
import Mathlib.Data.List.TakeWhile
import VersionStamp.CommandLine.Words

namespace VersionStamp.CommandLine

variable {ω : Type}

/-! ## Shapes -/

theorem cutValue_of_not_mem {cs : List Char} (h : '=' ∉ cs) : cutValue cs = (String.ofList cs, none) := by
  have hall : ∀ c ∈ cs, decide (c ≠ '=') = true := fun c hc => decide_eq_true fun he => h (he ▸ hc)
  rw [cutValue, List.dropWhile_eq_nil_iff.2 hall]

theorem cutValue_append {name : List Char} (h : '=' ∉ name) (value : List Char) :
    cutValue (name ++ '=' :: value) = (String.ofList name, some (String.ofList value)) := by
  have hall : ∀ c ∈ name, decide (c ≠ '=') = true := fun c hc => decide_eq_true fun he => h (he ▸ hc)
  rw [cutValue, List.dropWhile_append_of_pos hall, List.takeWhile_append_of_pos hall]
  simp

theorem cutValue_eq_none_iff {cs : List Char} {name : String} :
    cutValue cs = (name, none) ↔ cs = name.toList ∧ '=' ∉ cs := by
  by_cases h : '=' ∈ cs
  · obtain ⟨front, value, rfl, hfront⟩ := List.eq_append_cons_of_mem h
    simp [cutValue_append hfront]
  · rw [cutValue_of_not_mem h]
    simp [h, ← String.toList_inj]

theorem cutValue_eq_some_iff {cs : List Char} {name value : String} :
    cutValue cs = (name, some value) ↔ cs = name.toList ++ '=' :: value.toList ∧ '=' ∉ name.toList := by
  constructor
  · intro h
    by_cases hmem : '=' ∈ cs
    · obtain ⟨front, back, rfl, hfront⟩ := List.eq_append_cons_of_mem hmem
      obtain ⟨rfl, rfl⟩ : String.ofList front = name ∧ String.ofList back = value := by
        simpa [cutValue_append hfront] using h
      simpa using hfront
    · simp [cutValue_of_not_mem hmem] at h
  · rintro ⟨rfl, hname⟩
    rw [cutValue_append hname, String.ofList_toList, String.ofList_toList]

/-- A word that is no option: a lone `-`, or one that does not begin with it. -/
def IsArgument (word : String) : Prop := word = "-" ∨ word.toList.head? ≠ some '-'

theorem shape_eq_argument_iff {word : String} : shape word = .argument ↔ IsArgument word := by
  rw [IsArgument, ← String.toList_inj, shape]
  split
  next h => simp [h]
  next h => simp [h]
  next h => simp [h]
  next h₁ h₂ h₃ =>
    refine ⟨fun _ => ?_, fun _ => rfl⟩
    cases hw : word.toList with
    | nil => exact .inr (by simp)
    | cons c cs =>
      by_cases hc : c = '-'
      · subst hc
        cases cs with
        | nil => exact .inl rfl
        | cons d cs => exact absurd hw (h₃ d cs)
      · exact .inr (by simpa using hc)

theorem shape_eq_endOfOptions_iff {word : String} : shape word = .endOfOptions ↔ word = "--" := by
  rw [← String.toList_inj, shape]
  split
  next h => simp [h]
  next cs hcs h => simpa [h] using hcs
  next c cs _ hc h => simp [h, show c ≠ '-' from hc]
  next h _ _ => simpa using h

theorem shape_eq_long_none_iff {word name : String} :
    shape word = .long name none ↔ word = "--" ++ name ∧ name ≠ "" ∧ '=' ∉ name.toList := by
  have hlist : word = "--" ++ name ↔ word.toList = '-' :: '-' :: name.toList := by
    rw [← String.toList_inj, String.toList_append]; rfl
  rw [hlist, shape]
  split
  next h => simpa [h] using fun hname hne => absurd hname hne
  next cs hcs h =>
    rw [h, Shape.long.injEq, ← Prod.mk.injEq, Prod.eta, cutValue_eq_none_iff]
    simp only [List.cons.injEq, true_and]
    constructor
    · rintro ⟨rfl, hmem⟩
      exact ⟨rfl, by simpa using hcs, hmem⟩
    · rintro ⟨rfl, -, hmem⟩
      exact ⟨rfl, hmem⟩
  next c cs _ hc h => simp [h, show c ≠ '-' from hc]
  next hne => exact iff_of_false nofun fun ⟨hw, _⟩ => hne _ _ hw

theorem shape_eq_long_some_iff {word name value : String} :
    shape word = .long name (some value) ↔ word = "--" ++ name ++ "=" ++ value ∧ '=' ∉ name.toList := by
  have hlist : word = "--" ++ name ++ "=" ++ value ↔
      word.toList = '-' :: '-' :: (name.toList ++ '=' :: value.toList) := by
    simp [← String.toList_inj]
  rw [hlist, shape]
  split
  next h => simp [h]
  next cs _ h =>
    rw [h, Shape.long.injEq, ← Prod.mk.injEq, Prod.eta, cutValue_eq_some_iff]
    simp only [List.cons.injEq, true_and]
  next c cs _ hc h => simp [h, show c ≠ '-' from hc]
  next hne => exact iff_of_false nofun fun ⟨hw, _⟩ => hne _ _ hw

theorem shape_eq_letters_iff {word : String} {cs : List Char} :
    shape word = .letters cs ↔ word = String.ofList ('-' :: cs) ∧ cs ≠ [] ∧ cs.head? ≠ some '-' := by
  rw [← String.toList_inj, String.toList_ofList, shape]
  split
  next h => simpa [h] using fun hcs => by simp [← hcs]
  next ds _ h => simpa [h] using fun hcs => by simp [← hcs]
  next c ds _ hc h =>
    rw [h, Shape.letters.injEq, List.cons.injEq, and_iff_right rfl]
    refine ⟨fun hcs => ⟨hcs, ?_⟩, And.left⟩
    simpa [← hcs] using hc
  next h _ hne =>
    simp only [reduceCtorEq, false_iff, not_and]
    intro hw hcs
    obtain ⟨c, cs, rfl⟩ := List.exists_cons_of_ne_nil hcs
    exact (hne c cs hw).elim

/-! ## The grammar -/

/-- Letters run together: flags, and behind them at most one option with a value. The value is the
rest of the letters, or else that option waits for it. -/
inductive SpellsLetters (o : Options ω) : List (Setting ω) → Option ω → List Char → Prop
  | nil : SpellsLetters o [] none []
  | flag {given waiting c cs opt} : o.letter c = some opt → o.takesValue opt = false →
      SpellsLetters o given waiting cs → SpellsLetters o ((opt, "") :: given) waiting (c :: cs)
  | joined {c cs opt} : o.letter c = some opt → o.takesValue opt = true → cs ≠ [] →
      SpellsLetters o [(opt, String.ofList cs)] none (c :: cs)
  | waiting {c opt} : o.letter c = some opt → o.takesValue opt = true → SpellsLetters o [] (some opt) [c]

/-- Words that give these settings and these arguments, each in the order in which they are
written. -/
inductive Spells (o : Options ω) : List (Setting ω) → List String → List String → Prop
  | nil : Spells o [] [] []
  /-- Behind `--` there are arguments only. -/
  | ended (arguments) : Spells o [] arguments ("--" :: arguments)
  | argument {given arguments words word} : IsArgument word → Spells o given arguments words →
      Spells o given (word :: arguments) (word :: words)
  | flag {given arguments words name opt} : name ≠ "" → '=' ∉ name.toList → o.long name = some opt →
      o.takesValue opt = false → Spells o given arguments words →
      Spells o ((opt, "") :: given) arguments (("--" ++ name) :: words)
  /-- The value is the next word, whatever that looks like. -/
  | apart {given arguments words name opt} (value) : name ≠ "" → '=' ∉ name.toList → o.long name = some opt →
      o.takesValue opt = true → Spells o given arguments words →
      Spells o ((opt, value) :: given) arguments (("--" ++ name) :: value :: words)
  | joined {given arguments words name opt} (value) : '=' ∉ name.toList → o.long name = some opt →
      o.takesValue opt = true → Spells o given arguments words →
      Spells o ((opt, value) :: given) arguments (("--" ++ name ++ "=" ++ value) :: words)
  | letters {given arguments words front cs} : cs ≠ [] → cs.head? ≠ some '-' → SpellsLetters o front none cs →
      Spells o given arguments words → Spells o (front ++ given) arguments (String.ofList ('-' :: cs) :: words)
  | lettersApart {given arguments words front cs opt} (value) : cs ≠ [] → cs.head? ≠ some '-' →
      SpellsLetters o front (some opt) cs → Spells o given arguments words →
      Spells o (front ++ (opt, value) :: given) arguments (String.ofList ('-' :: cs) :: value :: words)

theorem cluster_eq_ok_iff {o : Options ω} {cs : List Char} {given : List (Setting ω)} {waiting : Option ω} :
    cluster o cs = .ok (given, waiting) ↔ SpellsLetters o given waiting cs := by
  constructor
  · intro h
    induction cs generalizing given waiting with
    | nil =>
      obtain ⟨rfl, rfl⟩ : [] = given ∧ none = waiting := by simpa [cluster] using h
      exact .nil
    | cons c cs ih =>
      rw [cluster] at h
      split at h
      · cases h
      next opt hopt =>
      split at h
      next hvalue =>
        split at h
        next hcs =>
          obtain ⟨rfl, rfl⟩ : [] = given ∧ some opt = waiting := by simpa using h
          subst hcs
          exact .waiting hopt hvalue
        next hcs =>
          obtain ⟨rfl, rfl⟩ : [(opt, String.ofList cs)] = given ∧ none = waiting := by simpa using h
          exact .joined hopt hvalue hcs
      next hflag =>
        split at h
        · cases h
        next settings rest hrest =>
          obtain ⟨rfl, rfl⟩ : (opt, "") :: settings = given ∧ rest = waiting := by simpa using h
          exact .flag hopt (by simpa using hflag) (ih hrest)
  · intro h
    induction h with
    | nil => rfl
    | flag hopt hflag _ ih => simp [cluster, hopt, hflag, ih]
    | joined hopt hvalue hcs => simp [cluster, hopt, hvalue, hcs]
    | waiting hopt hvalue => simp [cluster, hopt, hvalue]

theorem withSettings_eq_ok {front given : List (Setting ω)} {arguments : List String}
    {x : Except UsageError (List (Setting ω) × List String)} :
    withSettings front x = .ok (given, arguments) ↔ ∃ rest, x = .ok (rest, arguments) ∧ front ++ rest = given := by
  rcases x with e | ⟨rest, args⟩
  · simp [withSettings]
  · simp only [withSettings, Except.ok.injEq, Prod.mk.injEq]
    exact ⟨fun ⟨h, h'⟩ => ⟨rest, ⟨rfl, h'⟩, h⟩, fun ⟨_, ⟨rfl, h'⟩, h⟩ => ⟨h, h'⟩⟩

theorem withArgument_eq_ok {word : String} {given : List (Setting ω)} {arguments : List String}
    {x : Except UsageError (List (Setting ω) × List String)} :
    withArgument word x = .ok (given, arguments) ↔ ∃ rest, x = .ok (given, rest) ∧ word :: rest = arguments := by
  rcases x with e | ⟨settings, rest⟩
  · simp [withArgument]
  · simp only [withArgument, Except.ok.injEq, Prod.mk.injEq]
    exact ⟨fun ⟨h, h'⟩ => ⟨rest, ⟨h, rfl⟩, h'⟩, fun ⟨_, ⟨h, rfl⟩, h'⟩ => ⟨h, h'⟩⟩

theorem sort_of_spells {o : Options ω} {given : List (Setting ω)} {arguments words : List String}
    (h : Spells o given arguments words) : sort o true words = .ok (given, arguments) := by
  induction h with
  | nil => rfl
  | ended => rw [sort, shape_eq_endOfOptions_iff.2 rfl]
  | argument hword _ ih => simp only [sort, shape_eq_argument_iff.2 hword, ih, withArgument, if_true]
  | flag hne hname hopt hflag _ ih =>
    simp [sort, shape_eq_long_none_iff.2 ⟨rfl, hne, hname⟩, hopt, hflag, ih, withSettings]
  | apart value hne hname hopt hvalue _ ih =>
    simp [sort, shape_eq_long_none_iff.2 ⟨rfl, hne, hname⟩, hopt, hvalue, ih, withSettings]
  | joined value hname hopt hvalue _ ih =>
    simp only [sort, shape_eq_long_some_iff.2 ⟨rfl, hname⟩, hopt, hvalue, ih, withSettings, if_true]
    rfl
  | letters hne hhead hcs _ ih =>
    simp only [sort, shape_eq_letters_iff.2 ⟨rfl, hne, hhead⟩, cluster_eq_ok_iff.2 hcs, ih, withSettings]
  | lettersApart value hne hhead hcs _ ih =>
    simp only [sort, shape_eq_letters_iff.2 ⟨rfl, hne, hhead⟩, cluster_eq_ok_iff.2 hcs, ih, withSettings]
    simp

theorem spells_of_sort {o : Options ω} {given : List (Setting ω)} {arguments words : List String}
    (h : sort o true words = .ok (given, arguments)) : Spells o given arguments words := by
  fun_induction sort o true words generalizing given arguments with
  | case1 =>
    obtain ⟨rfl, rfl⟩ : [] = given ∧ [] = arguments := by simpa using h
    exact .nil
  | case2 word words hshape _ ih =>
    obtain ⟨rest, hrest, rfl⟩ := withArgument_eq_ok.1 h
    exact .argument (shape_eq_argument_iff.1 hshape) (ih hrest)
  | case3 _ _ _ hmixed => exact absurd rfl hmixed
  | case4 word words hshape =>
    obtain ⟨rfl, rfl⟩ : [] = given ∧ words = arguments := by simpa using h
    rw [shape_eq_endOfOptions_iff.1 hshape]
    exact .ended words
  | case6 word name opt hopt hvalue value words hshape ih =>
    obtain ⟨rest, hrest, rfl⟩ := withSettings_eq_ok.1 h
    obtain ⟨rfl, hname⟩ := shape_eq_long_some_iff.1 hshape
    exact .joined value hname hopt hvalue (ih hrest)
  | case7 word name opt hopt hvalue value words hshape ih =>
    obtain ⟨rest, hrest, rfl⟩ := withSettings_eq_ok.1 h
    obtain ⟨rfl, hne, hname⟩ := shape_eq_long_none_iff.1 hshape
    exact .apart value hne hname hopt hvalue (ih hrest)
  | case10 word words name value hshape opt hopt hflag hnone ih =>
    obtain ⟨rest, hrest, rfl⟩ := withSettings_eq_ok.1 h
    obtain rfl : value = none := by simpa using hnone
    obtain ⟨rfl, hne, hname⟩ := shape_eq_long_none_iff.1 hshape
    exact .flag hne hname hopt (by simpa using hflag) (ih hrest)
  | case12 word words cs hshape settings hcs ih =>
    obtain ⟨rest, hrest, rfl⟩ := withSettings_eq_ok.1 h
    obtain ⟨rfl, hne, hhead⟩ := shape_eq_letters_iff.1 hshape
    exact .letters hne hhead (cluster_eq_ok_iff.1 hcs) (ih hrest)
  | case13 word cs hshape settings opt hcs value words ih =>
    obtain ⟨rest, hrest, rfl⟩ := withSettings_eq_ok.1 h
    obtain ⟨rfl, hne, hhead⟩ := shape_eq_letters_iff.1 hshape
    rw [List.append_assoc]
    exact .lettersApart value hne hhead (cluster_eq_ok_iff.1 hcs) (ih hrest)
  -- What is left are the words that are wrong.
  | _ => cases h

/-- Sorting reads the words of the grammar, and no others. -/
theorem sort_eq_ok_iff {o : Options ω} {given : List (Setting ω)} {arguments words : List String} :
    sort o true words = .ok (given, arguments) ↔ Spells o given arguments words :=
  ⟨spells_of_sort, sort_of_spells⟩

end VersionStamp.CommandLine
