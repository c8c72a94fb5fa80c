/-
Actions that leave a stream alone.

`Quiet` is closed under doing one thing after the other, so a command is quiet
on a stream as soon as each of its steps is: what is said on the other stream
does not matter.
-/
import VersionStamp.CommandLine.Perform
import VersionStamp.Proofs.Resolution

namespace VersionStamp

variable {α β : Type} {s t : Stream}

/-- What was printed on a stream. -/
def Report.printed (r : Report α) : Stream → String
  | .output => r.output
  | .errors => r.errors

/-- Nothing is printed on the stream, in whatever world. -/
def Action.Quiet (s : Stream) (x : Action α) : Prop := ∀ w, (x.run w).printed s = ""

theorem Report.printed_withFault (r : Report α) (e : Fault) : (r.withFault e : Report β).printed s = r.printed s := by
  cases s <;> rfl

theorem Report.printed_andThen (r : Report α) (r' : Report β) :
    (r.andThen r').printed s = r.printed s ++ r'.printed s := by
  cases s <;> rfl

namespace Action

theorem quiet_pure (a : α) : Quiet s (pure a) := by
  intro w
  cases s <;> rfl

theorem quiet_fail (e : Fault) : Quiet s (fail e : Action α) := by
  intro w
  cases s <;> rfl

theorem quiet_world : Quiet s world := by
  intro w
  cases s <;> rfl

theorem quiet_onFiles (f : World → FileTree × Except FileError α) : Quiet s (onFiles f) := by
  intro w
  cases s <;> rfl

theorem quiet_ofExcept : (x : Except Fault α) → Quiet s (ofExcept x)
  | .ok a => quiet_pure a
  | .error e => quiet_fail e

theorem Quiet.bind {x : Action α} {f : α → Action β} (hx : x.Quiet s) (hf : ∀ a, (f a).Quiet s) :
    (x >>= f).Quiet s := by
  intro w
  cases h : (x.run w).result with
  | error e => rw [run_bind_error h, Report.printed_withFault, hx]
  | ok a => rw [run_bind_ok h, Report.printed_andThen, hx, hf, String.empty_append]

theorem quiet_write (h : s ≠ t) (text : String) : Quiet s (write t text) := by
  intro w
  cases s <;> cases t <;> first | rfl | exact absurd rfl h

theorem quiet_print (h : s ≠ t) (text style : String) : Quiet s (print t text style) := by
  rw [print]
  split
  · exact quiet_write h _
  · exact quiet_fail _

end Action

open VersionStamp.Action

theorem Log.quiet_log (h : s ≠ t) (message given style : String) : Quiet s (Log.log message t given style) := by
  refine (quiet_print h message style).bind fun _ => (quiet_onFiles _).bind fun r => ?_
  split
  · exact quiet_fail _
  · exact quiet_pure _

namespace Resolver

theorem quiet_compute (r : Resolver) (release : Bool) : Quiet s (r.compute release) := by
  intro w
  obtain ⟨-, houtput, herrors⟩ := r.compute_silent release w
  cases s
  · exact houtput
  · exact herrors

theorem quiet_resolve (h : s ≠ t) (r : Resolver) (release : Bool) : Quiet s (r.resolve release t) :=
  (r.quiet_compute release).bind fun _ => (Log.quiet_log h _ _ _).bind fun _ => quiet_pure _

/-- What is resolved aloud is what is resolved without a word. -/
theorem compute_of_resolve {r : Resolver} {release : Bool} {stream : Stream} {w : World} {info : VersionInfo}
    (h : ((r.resolve release stream).run w).result = .ok info) :
    ((r.compute release).run w).result = .ok info := by
  obtain ⟨info', hcompute, hrest⟩ := result_bind_eq_ok.1 h
  obtain ⟨_, -, hpure⟩ := result_bind_eq_ok.1 hrest
  rw [run_pure] at hpure
  rw [hcompute, Except.ok.inj hpure]

end Resolver

namespace CommandLine

theorem quiet_complain (message : String) : Quiet .output (complain message) :=
  (quiet_print (by decide) _ _).bind fun _ => quiet_pure _

theorem run_complain {message shown : String} (h : Console.layout ("ERROR: " ++ message) = .ok shown) (w : World) :
    (complain message).run w = ⟨.ok .failure, w.files, "", shown ++ "\n", []⟩ := by
  have hprint : (print .errors ("ERROR: " ++ message)).run w = ⟨.ok (), w.files, "", shown ++ "\n", []⟩ := by
    rw [run_print, h]
    rfl
  rw [complain, run_bind_ok (by rw [hprint]), hprint]
  simp [Report.andThen]

theorem run_complain_error {message : String} {e : Console.Error} (h : Console.layout ("ERROR: " ++ message) = .error e)
    (w : World) : (complain message).run w = ⟨.error (.console e), w.files, "", "", []⟩ := by
  have hprint : (print .errors ("ERROR: " ++ message)).run w = ⟨.error (.console e), w.files, "", "", []⟩ := by
    rw [run_print, h]
  rw [complain, run_bind_error (by rw [hprint]), hprint]
  rfl

theorem complain_ne_success (message : String) (w : World) : ((complain message).run w).result ≠ .ok .success := by
  intro h
  obtain ⟨_, -, hpure⟩ := result_bind_eq_ok.1 h
  cases hpure

theorem ResolveOptions.quiet_resolveWith (h : s ≠ t) (o : ResolveOptions) (settings : Settings) :
    Quiet s (o.resolveWith settings t) :=
  quiet_world.bind fun _ => (quiet_ofExcept _).bind fun _ => Resolver.quiet_resolve h _ _

/-- The checkout is located, and its version resolved. -/
theorem ResolveOptions.resolveWith_run (o : ResolveOptions) (settings : Settings) (stream : Stream) (w : World) :
    (o.resolveWith settings stream).run w =
      match Checkout.locate w (o.startIn w) with
      | .error e => ⟨.error (.file e), w.files, "", "", []⟩
      | .ok checkout =>
        ((Resolver.ofSettings checkout.text (o.override settings)).resolve (o.wantsRelease settings) stream).run w := by
  rw [resolveWith, run_world_bind]
  cases Checkout.locate w (o.startIn w) with
  | error e => rw [Except.mapError_error, ofExcept_error, run_fail_bind]
  | ok checkout => rw [Except.mapError_ok, ofExcept_ok, run_pure_bind]

theorem ResolveOptions.compute_of_resolveWith {o : ResolveOptions} {settings : Settings} {stream : Stream} {w : World}
    {info : VersionInfo} (h : ((o.resolveWith settings stream).run w).result = .ok info) :
    ∃ directory, (((Resolver.ofSettings directory (o.override settings)).compute (o.wantsRelease settings)).run
      w).result = .ok info := by
  rw [resolveWith_run] at h
  split at h
  · cases h
  next checkout _ => exact ⟨checkout.text, Resolver.compute_of_resolve h⟩

end CommandLine
end VersionStamp
