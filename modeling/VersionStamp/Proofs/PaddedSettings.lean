/-
Settings of padded values.

Environments are often put together by scripts, which leave blanks around a value and
bring along variables of their own. `settings_ignore_padding`: neither makes a difference.
What an environment amounts to, settings or the complaint about them, is decided by which of
five variables it sets, and by what is left of their values without the blanks at the ends
(`setsAlike_iff`); and the settings have no blanks at the ends of their texts either.
-/
import Mathlib.Data.List.TakeWhile
import VersionStamp.Proofs.UsableSettings

namespace VersionStamp

namespace Text

namespace Chars

theorem trimStart_append_of_blank {front : List Char} (h : ∀ c ∈ front, isBlank c = true) (cs : List Char) :
    trimStart (front ++ cs) = trimStart cs := List.dropWhile_append_of_pos h

theorem trimEnd_append_of_blank {back : List Char} (h : ∀ c ∈ back, isBlank c = true) (cs : List Char) :
    trimEnd (cs ++ back) = trimEnd cs := by
  have hreverse : ∀ c ∈ back.reverse, isBlank c = true := by simpa using h
  rw [trimEnd, List.reverse_append]
  exact congrArg List.reverse (trimStart_append_of_blank hreverse cs.reverse)

/-- Blanks that are put around the characters are taken away again. -/
theorem trim_of_blank_ends {front back : List Char} (hfront : ∀ c ∈ front, isBlank c = true)
    (hback : ∀ c ∈ back, isBlank c = true) (cs : List Char) : trim (front ++ cs ++ back) = trim cs := by
  rw [trim, List.append_assoc, trimStart_append_of_blank hfront, trim]
  simp only [trimStart, List.dropWhile_append]
  split
  next hnone =>
    -- the characters are blank themselves, and nothing is left with or without the others
    rw [List.isEmpty_iff.1 hnone, List.dropWhile_eq_nil_iff.2 hback]
  next => exact trimEnd_append_of_blank hback _

theorem trim_between_blanks (cs : List Char) :
    ∃ front back, cs = front ++ trim cs ++ back ∧ (∀ c ∈ front, isBlank c = true) ∧ ∀ c ∈ back, isBlank c = true := by
  refine ⟨cs.takeWhile isBlank, ((trimStart cs).reverse.takeWhile isBlank).reverse, ?_, fun c hc => ?_, fun c hc => ?_⟩
  · rw [List.append_assoc, trim, trimEnd, ← List.reverse_append, List.takeWhile_append_dropWhile, List.reverse_reverse,
      trimStart, List.takeWhile_append_dropWhile]
  · exact List.mem_takeWhile_imp hc
  · exact List.mem_takeWhile_imp (List.mem_reverse.1 hc)

end Chars

/-- A text with blanks in front of it and behind it. -/
def Pads (core s : String) : Prop :=
  ∃ front back : String, s = front ++ core ++ back ∧ (∀ c ∈ front.toList, isBlank c = true) ∧
    ∀ c ∈ back.toList, isBlank c = true

/-- The same text inside the blanks at the ends. -/
def SameInside (s t : String) : Prop := ∃ core, Pads core s ∧ Pads core t

theorem Pads.trim_eq {core s : String} (h : Pads core s) : trim s = trim core := by
  obtain ⟨front, back, rfl, hfront, hback⟩ := h
  rw [← String.toList_inj]
  simpa using Chars.trim_of_blank_ends hfront hback core.toList

theorem pads_trim (s : String) : Pads (trim s) s := by
  obtain ⟨front, back, hs, hfront, hback⟩ := Chars.trim_between_blanks s.toList
  refine ⟨String.ofList front, String.ofList back, ?_, by simpa using hfront, by simpa using hback⟩
  rw [← String.toList_inj]
  simpa using hs

theorem sameInside_iff {s t : String} : SameInside s t ↔ trim s = trim t := by
  constructor
  · intro h
    obtain ⟨core, hs, ht⟩ := h
    exact hs.trim_eq.trans ht.trim_eq.symm
  · intro h
    exact ⟨trim s, pads_trim s, h ▸ pads_trim t⟩

end Text

namespace Settings

/-- The variables that the settings are read from. -/
def readFrom : List String :=
  [Environment.baseVersion, Environment.suffix, Environment.releaseTask, Environment.gitTimeout, Environment.logDirectory]

end Settings

namespace Environment

variable {env env' : Environment}

/-- The same variables of the settings are set, to the same values but for blanks at the ends. -/
def SetsAlike (env env' : Environment) : Prop :=
  ∀ name ∈ Settings.readFrom, Option.Rel Text.SameInside (env.get? name) (env'.get? name)

theorem setsAlike_iff :
    env.SetsAlike env' ↔ ∀ name ∈ Settings.readFrom, (env.get? name).map Text.trim = (env'.get? name).map Text.trim := by
  have hvalue : ∀ v v' : Option String, Option.Rel Text.SameInside v v' ↔ v.map Text.trim = v'.map Text.trim := by
    intro v v'
    cases v <;> cases v' <;> simp [Text.sameInside_iff]
  simp only [SetsAlike, hvalue]

theorem SetsAlike.trim_getD (h : env.SetsAlike env') {name : String} (hname : name ∈ Settings.readFrom) (other : String) :
    Text.trim ((env.get? name).getD other) = Text.trim ((env'.get? name).getD other) := by
  have hvalue := setsAlike_iff.1 h name hname
  cases hv : env.get? name <;> cases hv' : env'.get? name <;> simp_all

end Environment

/-- **Settings ignore padding, and variables of others.** Take two environments that set the same of the five
variables of the settings, to values that are the same inside the blanks at their ends, and whatever else: both
give the same settings, or both the same complaint. And whatever settings an environment gives, no text in them
has a blank at an end, and the base version and the release task are not empty. -/
theorem settings_ignore_padding :
    (∀ env env' : Environment, env.SetsAlike env' → Settings.ofEnvironment env = Settings.ofEnvironment env') ∧
      ∀ (env : Environment) (s : Settings), Settings.ofEnvironment env = .ok s → s.Tidy := by
  refine ⟨fun env env' h => ?_, fun env s hs => (Settings.reads_ofEnvironment hs).tidy⟩
  have htext : ∀ name ∈ Settings.readFrom, Text.trim (env.text name) = Text.trim (env'.text name) :=
    fun name hname => h.trim_getD hname ""
  have hbase := htext Environment.baseVersion (by decide)
  have hsuffix := h.trim_getD (show Environment.suffix ∈ Settings.readFrom by decide) Settings.initial.suffix
  have htask := htext Environment.releaseTask (by decide)
  have htimeout := htext Environment.gitTimeout (by decide)
  have hlogs := htext Environment.logDirectory (by decide)
  simp only [Settings.ofEnvironment, hbase, hsuffix, htask, htimeout, hlogs]

/-! ## A padded environment -/

/-- An empty suffix, no base version to speak of, and a timeout, all of them padded. -/
def paddedEnvironment : Environment :=
  [(Environment.home, "/home/me"), (Environment.suffix, "\u2003 "), (Environment.baseVersion, "\t"),
    (Environment.gitTimeout, " 2.5\n")]

/-- The same without the padding, and without a home. -/
def bareEnvironment : Environment :=
  [(Environment.gitTimeout, "2.5"), (Environment.baseVersion, ""), (Environment.suffix, "")]

/-- Padded settings are those without the padding, and a padded timeout that is none is refused in the words
for the bare one. -/
theorem padding_is_ignored :
    (∃ s, Settings.ofEnvironment paddedEnvironment = .ok s ∧ Settings.ofEnvironment bareEnvironment = .ok s ∧
      s.suffix = "" ∧ s.baseVersion = "3.0.0" ∧ s.Tidy) ∧
    Settings.ofEnvironment [(Environment.gitTimeout, " soon\n")] = .error (.timeoutNotNumber "soon") := by
  obtain ⟨hsame, htidy⟩ := settings_ignore_padding
  have halike : Environment.SetsAlike paddedEnvironment bareEnvironment := Environment.setsAlike_iff.2 (by decide)
  have hsoon : Environment.SetsAlike [(Environment.gitTimeout, " soon\n")] [(Environment.gitTimeout, "soon")] :=
    Environment.setsAlike_iff.2 (by decide)
  have hbare : Settings.ofEnvironment bareEnvironment =
      .ok { Settings.initial with suffix := "", gitTimeout := .finite false (5 * Binary64.unitsPerOne / 2) } := by
    decide +kernel
  have hpadded := (hsame _ _ halike).trans hbare
  refine ⟨⟨_, hpadded, hbare, rfl, rfl, htidy _ _ hpadded⟩, (hsame _ _ hsoon).trans ?_⟩
  decide +kernel

end VersionStamp
