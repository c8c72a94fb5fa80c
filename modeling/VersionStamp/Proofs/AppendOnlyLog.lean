/-
The log over many calls.

`log_appends_only`: a call that returns adds its message to the log file or
changes no file, and one that fails changes nothing at all. From the first call
that adds its message on, all that return do, so the log file holds what it held
and the messages in the order of the calls. Whether a call returns is up to the
console alone (`returned_eq`), never to the files.
-/
import VersionStamp.Proofs.LogLines
import VersionStamp.Proofs.StampReading

namespace VersionStamp.Log

open Text (NulFree)

/-- One call of the log. -/
structure Call where
  message : String
  stream : Stream
  style : String := ""

namespace Call

/-- The call, for a log directory. -/
def perform (logs : String) (c : Call) : Action Unit := log c.message c.stream logs c.style

/-- The world after the call, however it ended. -/
def leaves (logs : String) (c : Call) (w : World) : World := w.after ((c.perform logs).run w)

def Returns (logs : String) (c : Call) (w : World) : Prop := ((c.perform logs).run w).result = .ok ()

/-- The call returns, and adds its message to the log file at a place. -/
def Appends (logs : String) (p : Place) (c : Call) (w : World) : Prop :=
  c.Returns logs w ∧ Extended w.here logs p w.files (c.leaves logs w).files [c.message]

/-- The console shows the message in its style. -/
def isShown (c : Call) : Bool :=
  match Console.layout c.message c.style with
  | .ok _ => true
  | .error _ => false

end Call

/-- The world after calls made one after the other. One that fails does not keep the others from being made. -/
def worldAfter (logs : String) : List Call → World → World
  | [], w => w
  | c :: cs, w => worldAfter logs cs (c.leaves logs w)

/-- The messages of the calls that return, in their order. -/
def returned (logs : String) : List Call → World → List String
  | [], _ => []
  | c :: cs, w =>
    match ((c.perform logs).run w).result with
    | .ok _ => c.message :: returned logs cs (c.leaves logs w)
    | .error _ => returned logs cs (c.leaves logs w)

theorem here_worldAfter (logs : String) (calls : List Call) (w : World) : (worldAfter logs calls w).here = w.here := by
  induction calls generalizing w with
  | nil => rfl
  | cons c cs ih => exact ih (c.leaves logs w)

theorem worldAfter_append (logs : String) (front rest : List Call) (w : World) :
    worldAfter logs (front ++ rest) w = worldAfter logs rest (worldAfter logs front w) := by
  induction front generalizing w with
  | nil => rfl
  | cons c cs ih => exact ih (c.leaves logs w)

theorem directoryFor_of_ne {logs : String} (h : logs ≠ "") (env : Environment) : directoryFor env logs = logs := if_neg h

section

variable {logs : String} (hlogs : logs ≠ "") (hnul : NulFree logs)
include hlogs hnul

/-! ## One call -/

theorem Call.result_perform (c : Call) (w : World) :
    ((c.perform logs).run w).result =
      match Console.layout c.message c.style with
      | .ok _ => .ok ()
      | .error e => .error (.console e) := by
  have hdirectory : NulFree (directoryFor w.env logs) := by rwa [directoryFor_of_ne hlogs]
  exact result_log hdirectory c.message c.stream c.style

/-- The messages of the calls that return are those that the console shows. -/
theorem returned_eq (calls : List Call) (w : World) :
    returned logs calls w = (calls.filter Call.isShown).map Call.message := by
  induction calls generalizing w with
  | nil => rfl
  | cons c cs ih =>
    have hresult := c.result_perform hlogs hnul w
    rw [returned]
    cases hshown : Console.layout c.message c.style with
    | error e =>
      have hnot : ¬c.isShown = true := by simp [Call.isShown, hshown]
      rw [hshown] at hresult
      simp only [hresult]
      rw [List.filter_cons_of_neg hnot, ih]
    | ok shown =>
      have his : c.isShown = true := by simp [Call.isShown, hshown]
      rw [hshown] at hresult
      simp only [hresult]
      rw [List.filter_cons_of_pos his, List.map_cons, ih]

/-- All that a call can do: return with its message added to the log file or with no file changed, or fail
at the console with nothing changed. -/
theorem Call.step (c : Call) (w : World) :
    c.Returns logs w ∧ (w.files.Grows (c.leaves logs w).files ∨ ∃ p, c.Appends logs p w) ∨
      (∃ e, ((c.perform logs).run w).result = .error (.console e)) ∧ (c.leaves logs w).files = w.files := by
  have hresult := c.result_perform hlogs hnul w
  cases hshown : Console.layout c.message c.style with
  | error e =>
    rw [hshown] at hresult
    exact .inr ⟨⟨e, hresult⟩, files_log_of_layout_error hshown c.stream logs w⟩
  | ok shown =>
    rw [hshown] at hresult
    have hfiles : (c.leaves logs w).files = (record logs c.message w).1 :=
      (log_of_layout hshown c.stream logs w).1
    have hextends := record_extends logs c.message w
    rw [directoryFor_of_ne hlogs, ← hfiles] at hextends
    refine .inl ⟨hresult, hextends.imp_right fun h => ?_⟩
    obtain ⟨-, p, hextended⟩ := h
    exact ⟨p, hresult, hextended⟩

omit hnul in
/-- With the log file there, a call that returns adds its message to it. -/
theorem Call.appends_of_stands {c : Call} {w : World} {p : Place} (hstands : Stands w.here logs p w.files)
    (h : c.Returns logs w) : c.Appends logs p w := by
  obtain ⟨hfind, content, hfile⟩ := hstands
  obtain ⟨⟨shown, hshown⟩, -⟩ := result_log_eq_ok_iff.1 h
  have hfiles : (c.leaves logs w).files = (record logs c.message w).1 :=
    (log_of_layout hshown c.stream logs w).1
  have hdirectory := directoryFor_of_ne hlogs w.env
  rw [← hdirectory] at hfind
  have hextended := record_of_file (by rwa [hdirectory]) hfind hfile c.message
  rw [hdirectory, ← hfiles] at hextended
  exact ⟨h, hextended⟩

/-! ## Many calls -/

/-- Once the log file is there, it is extended by the messages of all calls that return. -/
theorem extended_worldAfter {w : World} {p : Place} (hstands : Stands w.here logs p w.files) (calls : List Call) :
    Extended w.here logs p w.files (worldAfter logs calls w).files (returned logs calls w) := by
  induction calls generalizing w with
  | nil => exact hstands.extended_nil
  | cons c cs ih =>
    rw [worldAfter, returned]
    rcases c.step hlogs hnul w with ⟨hreturns, -⟩ | ⟨⟨e, hresult⟩, hsame⟩
    · obtain ⟨-, hextended⟩ := c.appends_of_stands hlogs hstands hreturns
      rw [Call.Returns] at hreturns
      simp only [hreturns]
      exact hextended.trans (ih hextended.stands)
    · simp only [hresult]
      have hrest := ih (w := c.leaves logs w) (by rwa [hsame])
      rwa [hsame] at hrest

/-- From a call on that adds its message, the log file holds what it held before and the messages of all
calls that return. -/
theorem extended_of_appends {c : Call} {w : World} {p : Place} (h : c.Appends logs p w) (calls : List Call) :
    Extended w.here logs p w.files (worldAfter logs (c :: calls) w).files (returned logs (c :: calls) w) := by
  obtain ⟨hreturns, hextended⟩ := h
  have hrest := extended_worldAfter hlogs hnul (w := c.leaves logs w) hextended.stands calls
  rw [Call.Returns] at hreturns
  simp only [worldAfter, returned, hreturns]
  exact hextended.trans hrest

/-- No call adds its message, or there is a first one that does. -/
theorem worldAfter_cases (calls : List Call) (w : World) :
    w.files.Grows (worldAfter logs calls w).files ∨
      ∃ front c rest p, calls = front ++ c :: rest ∧ w.files.Grows (worldAfter logs front w).files ∧
        c.Appends logs p (worldAfter logs front w) := by
  induction calls generalizing w with
  | nil => exact .inl (.refl _)
  | cons c cs ih =>
    have hgrown : w.files.Grows (c.leaves logs w).files →
        w.files.Grows (worldAfter logs (c :: cs) w).files ∨
          ∃ front d rest p, c :: cs = front ++ d :: rest ∧ w.files.Grows (worldAfter logs front w).files ∧
            d.Appends logs p (worldAfter logs front w) := by
      intro hgrows
      rcases ih (c.leaves logs w) with hrest | ⟨front, d, rest, p, rfl, hrest, happends⟩
      · exact .inl (hgrows.trans hrest)
      · exact .inr ⟨c :: front, d, rest, p, rfl, hgrows.trans hrest, happends⟩
    rcases c.step hlogs hnul w with ⟨-, hgrows | ⟨p, happends⟩⟩ | ⟨-, hsame⟩
    · exact hgrown hgrows
    · exact .inr ⟨[], c, cs, p, rfl, .refl _, happends⟩
    · exact hgrown (hsame ▸ .refl _)

/-- **The log only grows at its end, and no line of it is lost.** For a log directory and any calls of the
log with it, in any world:

* a call that returns adds its message and a newline to the log file, or leaves every file as it is; one
  that fails does so at the console, and changes nothing;
* once a call has added its message, every later one that returns does so too, and at the end the log file
  holds what it held before the first of them and these messages in their order;
* all in all no file but the log file is changed or removed, and only directories are new besides it. -/
theorem log_appends_only (w : World) :
    (∀ c : Call, c.Returns logs w ∧ (w.files.Grows (c.leaves logs w).files ∨ ∃ p, c.Appends logs p w) ∨
      (∃ e, ((c.perform logs).run w).result = .error (.console e)) ∧ (c.leaves logs w).files = w.files) ∧
    (∀ (c : Call) (p : Place), c.Appends logs p w → ∀ calls : List Call,
      Extended w.here logs p w.files (worldAfter logs (c :: calls) w).files (returned logs (c :: calls) w) ∧
      ∀ front d rest, calls = front ++ d :: rest → d.Returns logs (worldAfter logs (c :: front) w) →
        d.Appends logs p (worldAfter logs (c :: front) w)) ∧
    ∀ calls : List Call, w.files.Grows (worldAfter logs calls w).files ∨
      ∃ front c rest p, calls = front ++ c :: rest ∧ w.files.Grows (worldAfter logs front w).files ∧
        c.Appends logs p (worldAfter logs front w) ∧
        Extended w.here logs p w.files (worldAfter logs calls w).files
          (returned logs (c :: rest) (worldAfter logs front w)) := by
  refine ⟨fun c => c.step hlogs hnul w, fun c p happends calls => ⟨?_, ?_⟩, fun calls => ?_⟩
  · exact extended_of_appends hlogs hnul happends calls
  · intro front d rest _ hreturns
    have hstands := (extended_of_appends hlogs hnul happends front).stands
    rw [← here_worldAfter logs (c :: front) w] at hstands
    exact d.appends_of_stands hlogs hstands hreturns
  · refine (worldAfter_cases hlogs hnul calls w).imp_right fun h => ?_
    obtain ⟨front, c, rest, p, rfl, hgrows, happends⟩ := h
    have hextended := extended_of_appends hlogs hnul happends rest
    rw [here_worldAfter, ← worldAfter_append] at hextended
    exact ⟨front, c, rest, p, rfl, hgrows, happends, hextended.of_grows hgrows⟩

end

/-- A message that the console refuses is not in the log. Those before and behind it are, whatever octets
the log file held. -/
theorem refused_message_is_not_logged :
    "/" ≠ "" ∧ NulFree "/" ∧
      (worldAfter "/" [⟨"one", .output, ""⟩, ⟨"[/]", .output, ""⟩, ⟨"two", .errors, ""⟩]
        (.withFile "buildstamp.log" ⟨#[0xFF]⟩)).files.get? ["buildstamp.log"] =
          some (.file (⟨#[0xFF]⟩ ++ "one\ntwo\n".toUTF8)) := by
  have hlogs : "/" ≠ "" := by decide
  have hnul : NulFree "/" := by decide
  have hstands : Stands [] "/" ["buildstamp.log"] (World.withFile "buildstamp.log" ⟨#[0xFF]⟩).files := ⟨rfl, _, rfl⟩
  have hone : Call.Returns "/" ⟨"one", .output, ""⟩ (.withFile "buildstamp.log" ⟨#[0xFF]⟩) :=
    Call.result_perform hlogs hnul _ _
  obtain ⟨-, hkept, -⟩ := log_appends_only hlogs hnul (.withFile "buildstamp.log" ⟨#[0xFF]⟩)
  obtain ⟨hextended, -⟩ := hkept _ _ (Call.appends_of_stands hlogs hstands hone)
    [⟨"[/]", .output, ""⟩, ⟨"two", .errors, ""⟩]
  rw [returned_eq hlogs hnul] at hextended
  exact ⟨hlogs, hnul, hextended.file⟩

end VersionStamp.Log
