/-
What the options given to a resolving command come to.

`ofSettings_eq` says it for all of them together: the tasks add up, a flag is
set if it was given at all, and of any other option the last value counts.
`parse_printVersion` is the way from the words of the grammar to the command.
-/
import Mathlib.Data.List.Induction
import VersionStamp.CommandLine.Invocation
import VersionStamp.Proofs.OptionWords

namespace VersionStamp.CommandLine

variable {ω : Type} [DecidableEq ω]

/-- The values given for an option, in their order. -/
def valuesOf (opt : ω) (given : List (Setting ω)) : List String :=
  given.filterMap fun s => if s.1 = opt then some s.2 else none

/-- The value that counts where only one can. -/
def lastValue? (opt : ω) (given : List (Setting ω)) : Option String := (valuesOf opt given).getLast?

theorem mem_valuesOf {opt : ω} {given : List (Setting ω)} {value : String} :
    value ∈ valuesOf opt given ↔ (opt, value) ∈ given := by
  simp only [valuesOf, List.mem_filterMap, Option.ite_none_right_eq_some, Option.some.injEq, Prod.exists]
  constructor
  · rintro ⟨_, _, hmem, rfl, rfl⟩
    exact hmem
  · exact fun hmem => ⟨_, _, hmem, rfl, rfl⟩

theorem valuesOf_cons (opt : ω) (s : Setting ω) (given : List (Setting ω)) :
    valuesOf opt (s :: given) = if s.1 = opt then s.2 :: valuesOf opt given else valuesOf opt given := by
  rw [valuesOf, List.filterMap_cons, ← valuesOf]
  split <;> simp_all

theorem valuesOf_concat (opt : ω) (given : List (Setting ω)) (s : Setting ω) :
    valuesOf opt (given ++ [s]) = valuesOf opt given ++ if s.1 = opt then [s.2] else [] := by
  rw [valuesOf, List.filterMap_append, ← valuesOf]
  split <;> simp [*]

theorem lastValue?_concat (opt : ω) (given : List (Setting ω)) (s : Setting ω) :
    lastValue? opt (given ++ [s]) = if s.1 = opt then some s.2 else lastValue? opt given := by
  rw [lastValue?, valuesOf_concat]
  split <;> simp [lastValue?]

namespace ResolveOptions

theorem ofSettings_eq (given : List (Setting ResolveOption)) :
    ofSettings given =
      { directory := lastValue? .directory given
        release := valuesOf .release given ≠ []
        tasks := valuesOf .task given
        baseVersion := lastValue? .baseVersion given
        suffix := lastValue? .suffix given
        json := valuesOf .json given ≠ [] } := by
  induction given using List.reverseRecOn with
  | nil => rfl
  | append_singleton given s ih =>
    obtain ⟨opt, value⟩ := s
    rw [ofSettings, List.foldl_append, List.foldl_cons, List.foldl_nil, ← ofSettings, ih]
    cases opt <;> simp [set, lastValue?_concat, valuesOf_concat]

end ResolveOptions

/-! ## From the words to the command -/

theorem parse_command {name : String} (h : name ∈ Command.names) (words : List String) :
    Invocation.parse (name :: words) = (Command.parse name words).map .command := by
  have hargument : shape name = .argument := by
    simp only [Command.names, List.mem_cons, List.not_mem_nil, or_false] at h
    rcases h with rfl | rfl | rfl | rfl <;> rfl
  have hsort : sort versionOption false (name :: words) = .ok ([], name :: words) := by
    simp [sort, hargument]
  rw [Invocation.parse, if_neg (List.cons_ne_nil _ _), hsort]
  simp [h]

theorem resolveWords_of_spells {json : Bool} {given : List (Setting ResolveOption)} {arguments words : List String}
    (h : Spells (ResolveOption.all json) given arguments words) :
    resolveWords json words = .ok (.ofSettings given, arguments) := by
  rw [resolveWords, sort_of_spells h]

theorem parse_printVersion {given : List (Setting ResolveOption)} {words : List String}
    (h : Spells (ResolveOption.all false) given [] words) :
    Invocation.parse ("print-version" :: words) = .ok (.command (.printVersion (.ofSettings given))) := by
  rw [parse_command (by decide), Command.parse, if_pos rfl, resolveWords_of_spells h]
  rfl

end VersionStamp.CommandLine
