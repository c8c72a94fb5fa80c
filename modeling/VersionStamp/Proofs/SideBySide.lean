/-
Two runs side by side.

`SideBySide S x y`: in worlds that `S` relates, the two actions come to the same,
print the same and ask the same, and leave worlds behind that `S` relates again.
Doing one thing after the other keeps it so (`SideBySide.bind`), and what an
action reads of its world is compared where it reads it (`sideBySide_world`).
-/
import VersionStamp.CommandLine.Perform
import VersionStamp.Proofs.ActionRuns

namespace VersionStamp

variable {α β : Type}

/-- Two reports that tell the same, whatever they leave in the files. -/
structure Report.Agrees (r r' : Report α) : Prop where
  result : r.result = r'.result
  output : r.output = r'.output
  errors : r.errors = r'.errors
  queries : r.queries = r'.queries

namespace Action

/-- In related worlds the two actions agree and leave related worlds behind. -/
def SideBySide (S : World → World → Prop) (x y : Action α) : Prop :=
  ∀ w v, S w v → (x.run w).Agrees (y.run v) ∧ S (w.after (x.run w)) (v.after (y.run v))

variable {S : World → World → Prop}

theorem sideBySide_pure (a : α) : SideBySide S (pure a) (pure a) :=
  fun _ _ h => ⟨⟨rfl, rfl, rfl, rfl⟩, h⟩

theorem sideBySide_fail (e : Fault) : SideBySide S (fail e : Action α) (fail e) :=
  fun _ _ h => ⟨⟨rfl, rfl, rfl, rfl⟩, h⟩

theorem sideBySide_ofExcept : (x : Except Fault α) → SideBySide S (ofExcept x) (ofExcept x)
  | .ok a => sideBySide_pure a
  | .error e => sideBySide_fail e

theorem sideBySide_write (stream : Stream) (text : String) : SideBySide S (write stream text) (write stream text) := by
  intro w v h
  cases stream with
  | output => exact ⟨⟨rfl, rfl, rfl, rfl⟩, h⟩
  | errors => exact ⟨⟨rfl, rfl, rfl, rfl⟩, h⟩

theorem sideBySide_print (stream : Stream) (text style : String) :
    SideBySide S (print stream text style) (print stream text style) := by
  rw [print]
  split
  · exact sideBySide_write stream _
  · exact sideBySide_fail _

/-- What git answers the same may be asked. -/
theorem sideBySide_ask {q : Git.Query} (hq : ∀ w v, S w v → w.git.answer q = v.git.answer q) :
    SideBySide S (ask q) (ask q) := by
  intro w v h
  cases ha : w.git.answer q with
  | ok a =>
    rw [run_ask_ok ha, run_ask_ok ((hq w v h).symm.trans ha)]
    exact ⟨⟨rfl, rfl, rfl, rfl⟩, h⟩
  | error t =>
    rw [run_ask_error ha, run_ask_error ((hq w v h).symm.trans ha)]
    exact ⟨⟨rfl, rfl, rfl, rfl⟩, h⟩

theorem sideBySide_onFiles {f g : World → FileTree × Except FileError α}
    (h : ∀ w v, S w v → (f w).2 = (g v).2 ∧ S { w with files := (f w).1 } { v with files := (g v).1 }) :
    SideBySide S (onFiles f) (onFiles g) := by
  intro w v hS
  obtain ⟨hresult, hfiles⟩ := h w v hS
  exact ⟨⟨congrArg Except.ok hresult, rfl, rfl, rfl⟩, hfiles⟩

theorem SideBySide.bind {x y : Action α} {f g : α → Action β} (hx : SideBySide S x y)
    (hf : ∀ a, SideBySide S (f a) (g a)) : SideBySide S (x >>= f) (y >>= g) := by
  intro w v h
  obtain ⟨hagrees, hafter⟩ := hx w v h
  cases hresult : (x.run w).result with
  | error e =>
    rw [run_bind_error hresult, run_bind_error (hagrees.result ▸ hresult)]
    exact ⟨⟨rfl, hagrees.output, hagrees.errors, hagrees.queries⟩, hafter⟩
  | ok a =>
    obtain ⟨hagrees', hafter'⟩ := hf a _ _ hafter
    rw [run_bind_ok hresult, run_bind_ok (hagrees.result ▸ hresult)]
    refine ⟨⟨hagrees'.result, ?_, ?_, ?_⟩, hafter'⟩
    · simp only [Report.andThen, hagrees.output, hagrees'.output]
    · simp only [Report.andThen, hagrees.errors, hagrees'.errors]
    · simp only [Report.andThen, hagrees.queries, hagrees'.queries]

/-- What is made of two related worlds is compared for these worlds alone. -/
theorem sideBySide_world {f g : World → Action β} (h : ∀ w v, S w v → SideBySide S (f w) (g v)) :
    SideBySide S (world >>= f) (world >>= g) := by
  intro w v hS
  rw [run_world_bind, run_world_bind]
  exact h w v hS w v hS

end Action

open VersionStamp.Action in
theorem CommandLine.sideBySide_complain {S : World → World → Prop} (message : String) :
    SideBySide S (complain message) (complain message) :=
  (sideBySide_print _ _ _).bind fun _ => sideBySide_pure _

end VersionStamp
