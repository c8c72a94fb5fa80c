/-
Single actions, and two in turn.

`result_bind_eq_ok`: one action after the other has a result if each has one in
its turn, the second in the world that the first leaves behind.
-/
import VersionStamp.Action

namespace Except

variable {ε ε' α : Type} {f : ε → ε'}

@[simp] theorem mapError_ok (a : α) : (.ok a : Except ε α).mapError f = .ok a := rfl

@[simp] theorem mapError_error (e : ε) : (.error e : Except ε α).mapError f = .error (f e) := rfl

theorem mapError_eq_ok {x : Except ε α} {a : α} : x.mapError f = .ok a ↔ x = .ok a := by
  cases x <;> simp

end Except

namespace VersionStamp

@[simp] theorem World.files_after {α : Type} (w : World) (r : Report α) : (w.after r).files = r.files := rfl

theorem World.after_self {α : Type} (w : World) (r : Report α) (h : r.files = w.files) : w.after r = w := by
  rw [World.after, h]

namespace Action

variable {α β : Type}

/-- Asking changes nothing, whatever the answer. -/
theorem run_ask (q : Git.Query) (w : World) :
    (ask q).run w = ⟨(w.git.answer q).mapError .git, w.files, "", "", [q]⟩ := by
  simp only [run, ask]
  cases w.git.answer q <;> rfl

theorem run_ask_ok {w : World} {q : Git.Query} {a : Git.Answer} (h : w.git.answer q = .ok a) :
    (ask q).run w = ⟨.ok a, w.files, "", "", [q]⟩ := by
  rw [run_ask, h]
  rfl

theorem run_ask_error {w : World} {q : Git.Query} {t : String} (h : w.git.answer q = .error t) :
    (ask q).run w = ⟨.error (.git t), w.files, "", "", [q]⟩ := by
  rw [run_ask, h]
  rfl

theorem ofExcept_ok (a : α) : ofExcept (.ok a) = pure a := rfl

theorem ofExcept_error (e : Fault) : (ofExcept (.error e) : Action α) = fail e := rfl

@[simp] theorem run_pure_bind (a : α) (f : α → Action β) (w : World) :
    ((pure a : Action α) >>= f).run w = (f a).run w := by
  rw [run_bind_ok (by rw [run_pure]), run_pure, World.after_self _ _ rfl]
  simp [Report.andThen]

@[simp] theorem run_fail_bind (e : Fault) (f : α → Action β) (w : World) :
    ((fail e : Action α) >>= f).run w = ⟨.error e, w.files, "", "", []⟩ := by
  rw [run_bind_error (by rw [run_fail]), run_fail]
  rfl

@[simp] theorem run_world_bind (f : World → Action β) (w : World) : (world >>= f).run w = (f w).run w := by
  rw [run_bind_ok (by rw [run_world]), run_world, World.after_self _ _ rfl]
  simp [Report.andThen]

/-- Two actions have a result together if each has one in its turn. -/
theorem result_bind_eq_ok {x : Action α} {f : α → Action β} {w : World} {b : β} :
    ((x >>= f).run w).result = .ok b ↔
      ∃ a, (x.run w).result = .ok a ∧ ((f a).run (w.after (x.run w))).result = .ok b := by
  cases h : (x.run w).result with
  | error e =>
    rw [run_bind_error h]
    simp [Report.withFault]
  | ok a =>
    rw [run_bind_ok h]
    simp [Report.andThen]

/-- What is made of the result changes nothing else. -/
theorem run_bind_pure (x : Action α) (f : α → β) (w : World) :
    (x >>= fun a => pure (f a)).run w =
      ⟨(x.run w).result.map f, (x.run w).files, (x.run w).output, (x.run w).errors, (x.run w).queries⟩ := by
  cases h : (x.run w).result with
  | error e =>
    rw [run_bind_error h]
    rfl
  | ok a =>
    rw [run_bind_ok h]
    simp [Report.andThen, Except.map]

/-- Work on the files whose failure is the fault of the action. -/
theorem run_orFault_onFiles (f : World → FileTree × Except FileError α) (w : World) :
    (orFault (onFiles f)).run w = ⟨(f w).2.mapError .file, (f w).1, "", "", []⟩ := by
  rw [orFault, run_bind_ok (by rw [run_onFiles]), run_onFiles]
  cases (f w).2 <;> simp [Report.andThen]

/-! ## Actions that only print -/

/-- No file is changed and git is asked nothing, in whatever world. -/
def OnlyPrints (x : Action α) : Prop := ∀ w, (x.run w).files = w.files ∧ (x.run w).queries = []

theorem onlyPrints_pure (a : α) : OnlyPrints (pure a) := fun _ => ⟨rfl, rfl⟩

theorem onlyPrints_fail (e : Fault) : OnlyPrints (fail e : Action α) := fun _ => ⟨rfl, rfl⟩

theorem onlyPrints_world : OnlyPrints world := fun _ => ⟨rfl, rfl⟩

/-- What only prints leaves things behind as they were. -/
theorem run_bind_onlyPrints (x : Action α) {f : α → Action β} (hf : ∀ a, (f a).OnlyPrints) (w : World) :
    ((x >>= f).run w).files = (x.run w).files ∧ ((x >>= f).run w).queries = (x.run w).queries := by
  cases h : (x.run w).result with
  | error e =>
    rw [run_bind_error h]
    exact ⟨rfl, rfl⟩
  | ok a =>
    obtain ⟨hfiles, hqueries⟩ := hf a (w.after (x.run w))
    rw [run_bind_ok h]
    refine ⟨hfiles, ?_⟩
    rw [Report.andThen, hqueries, List.append_nil]

theorem OnlyPrints.bind {x : Action α} {f : α → Action β} (hx : x.OnlyPrints) (hf : ∀ a, (f a).OnlyPrints) :
    (x >>= f).OnlyPrints := by
  intro w
  obtain ⟨hfiles, hqueries⟩ := hx w
  obtain ⟨hfiles', hqueries'⟩ := run_bind_onlyPrints x hf w
  exact ⟨hfiles'.trans hfiles, hqueries'.trans hqueries⟩

theorem onlyPrints_print (stream : Stream) (text style : String) : OnlyPrints (print stream text style) := by
  intro w
  unfold print
  split
  · cases stream <;> exact ⟨rfl, rfl⟩
  · exact ⟨rfl, rfl⟩

theorem run_print {stream : Stream} {text style : String} (w : World) :
    (print stream text style).run w =
      match Console.layout text style with
      | .ok shown => (write stream (shown ++ "\n")).run w
      | .error e => ⟨.error (.console e), w.files, "", "", []⟩ := by
  unfold print
  cases Console.layout text style <;> rfl

end Action
end VersionStamp
