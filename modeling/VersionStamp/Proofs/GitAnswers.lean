/-
The answers of a git process, and described revisions.

`answer_eq_found_iff`: a text is found exactly when the process ended well and
wrote that text with blanks around it (`Ending.Wrote`). `compacts_compact`: the
compact form lacks the `g` of the first `-g`, which makes no new blank at an
end (`compact_trimmed`).
-/
import VersionStamp.Git.Describe
import VersionStamp.Git.Ending
import VersionStamp.Proofs.Trimmed

namespace VersionStamp.Git

/-- A process that ended with exit code nought and wrote more than blanks, both its streams being
UTF-8; the text is what it wrote, ends of lines unified, without the blanks around it. -/
def Ending.Wrote (e : Ending) (text : String) : Prop :=
  ∃ output errors written said, e = .exited 0 output errors ∧ Text.Utf8.decode output = .ok written ∧
    Text.Utf8.decode errors = .ok said ∧ text = Text.trim (Text.unifyBreaks written) ∧ text ≠ ""

theorem streamText_eq_some {octets : ByteArray} {cs : List Char} :
    streamText octets = some cs ↔
      ∃ s, Text.Utf8.decode octets = .ok s ∧ cs = (Text.unifyBreaks s).toList := by
  rw [streamText]
  cases Text.Utf8.decode octets with
  | error n => simp
  | ok s => simp [eq_comm]

theorem exitAnswer_eq_found {code : Int} {output errors : List Char} {text : String} :
    exitAnswer code output errors = .found text ↔
      code = 0 ∧ Text.Chars.trim output ≠ [] ∧ text = String.ofList (Text.Chars.trim output) := by
  rw [exitAnswer]
  split
  next hcode => simp [hcode]
  next hcode =>
    rw [not_not] at hcode
    split
    next hnil => simp [hnil]
    next cs hcs => simp only [Answer.found.injEq, hcode, true_and, eq_comm, ne_eq]; tauto

theorem answer_eq_found_iff {limit : Binary64} {e : Ending} {text : String} :
    e.answer limit = .ok (.found text) ↔ e.Wrote text := by
  constructor
  · intro h
    cases e with
    | exited code output errors =>
      rw [Ending.answer] at h
      split at h
      next o r ho hr =>
        obtain ⟨written, hwritten, rfl⟩ := streamText_eq_some.1 ho
        obtain ⟨said, hsaid, rfl⟩ := streamText_eq_some.1 hr
        obtain ⟨rfl, hne, rfl⟩ := exitAnswer_eq_found.1 (Except.ok.inj h)
        exact ⟨output, errors, written, said, rfl, hwritten, hsaid, rfl, by simpa using hne⟩
      next => cases h
    | _ => cases h
  · rintro ⟨output, errors, written, said, rfl, hwritten, hsaid, rfl, hne⟩
    have ho := streamText_eq_some.2 ⟨written, hwritten, rfl⟩
    have hr := streamText_eq_some.2 ⟨said, hsaid, rfl⟩
    simp only [Ending.answer, ho, hr]
    rw [exitAnswer_eq_found.2 ⟨rfl, ?_, rfl⟩]
    · rfl
    · intro hnil
      rw [← Text.toList_trim] at hnil
      exact hne (by simpa only [String.toList_eq_nil_iff] using hnil)

/-- Of a process that does not break off in an unforeseen way there is an answer. -/
theorem Ending.answer_ok {e : Ending} (h : ∀ text, e ≠ .broken text) (limit : Binary64) :
    ∃ a, e.answer limit = .ok a := by
  cases e with
  | exited code output errors =>
    rw [Ending.answer]
    split <;> exact ⟨_, rfl⟩
  | broken text => exact absurd rfl (h text)
  | _ => exact ⟨_, rfl⟩

theorem Ending.Wrote.trimmed {e : Ending} {text : String} (h : e.Wrote text) : Text.trim text = text ∧ text ≠ "" := by
  obtain ⟨-, -, written, -, -, -, -, rfl, hne⟩ := h
  exact ⟨Text.trim_trim _, hne⟩

/-! ## Compact form -/

/-- The characters, and what is left of them without the `g` of the first `-g`. -/
inductive Compacts : List Char → List Char → Prop
  | unmarked {cs} : ¬ ['-', 'g'] <:+: cs → Compacts cs cs
  | marked (front) {rest} : ¬ ['-', 'g'] <:+: front ++ ['-'] →
      Compacts (front ++ '-' :: 'g' :: rest) (front ++ '-' :: rest)

theorem Chars.compacts_dropMarker (cs : List Char) : Compacts cs (Chars.dropMarker cs) := by
  fun_induction Chars.dropMarker cs with
  | case1 => exact .unmarked (by decide)
  | case2 cs => exact .marked [] (by decide)
  | case3 c cs hmarker ih =>
    -- the marker is not at the front, so it is first where it is first in the rest
    generalize Chars.dropMarker cs = ds at ih
    cases ih with
    | unmarked hrest =>
      refine .unmarked fun h => ?_
      rcases List.infix_cons_iff.1 h with ⟨back, h⟩ | h
      · obtain ⟨rfl, rfl⟩ : '-' = c ∧ 'g' :: back = cs := by simpa using h
        exact hmarker back rfl rfl
      · exact hrest h
    | marked front hfront =>
      refine .marked (c :: front) fun h => ?_
      rcases List.infix_cons_iff.1 h with ⟨back, h⟩ | h
      · cases front with
        | nil => simp at h
        | cons d front =>
          obtain ⟨rfl, rfl, -⟩ : '-' = c ∧ 'g' = d ∧ _ := by simpa using h
          exact hmarker _ rfl rfl
      · exact hfront h

theorem Compacts.eq_dropMarker {cs ds : List Char} (h : Compacts cs ds) : ds = Chars.dropMarker cs := by
  cases h with
  | unmarked h =>
    fun_induction Chars.dropMarker cs with
    | case1 => rfl
    | case2 cs => exact absurd (List.prefix_append ['-', 'g'] cs).isInfix h
    | case3 c cs _ ih => rw [← ih fun hrest => h (List.infix_cons hrest)]
  | @marked front rest h =>
    induction front with
    | nil => rfl
    | cons c front ih =>
      have hfront : ¬['-', 'g'] <:+: front ++ ['-'] := fun hrest => h (List.infix_cons hrest)
      have hmarker : ∀ back, c = '-' → front ++ '-' :: 'g' :: rest = 'g' :: back → False := by
        rintro back rfl hback
        cases front with
        | nil => simp at hback
        | cons d front =>
          obtain ⟨rfl, -⟩ : d = 'g' ∧ _ := by simpa using hback
          exact h (List.prefix_append ['-', 'g'] (front ++ ['-'])).isInfix
      rw [List.cons_append, List.cons_append, Chars.dropMarker, ← ih hfront]
      exact hmarker

theorem Ending.Wrote.unique {e : Ending} {text text' : String} (h : e.Wrote text) (h' : e.Wrote text') :
    text = text' := by
  obtain ⟨_, _, written, _, he, hwritten, -, rfl, -⟩ := h
  obtain ⟨_, _, written', _, he', hwritten', -, rfl, -⟩ := h'
  cases he.symm.trans he'
  cases hwritten.symm.trans hwritten'
  rfl

theorem Compacts.trimmed {cs ds : List Char} (h : Text.Chars.Trimmed cs) (hc : Compacts cs ds) :
    Text.Chars.Trimmed ds := by
  cases hc with
  | unmarked => exact h
  | @marked front rest _ =>
    constructor
    · intro c hc
      cases front with
      | nil =>
        obtain rfl : '-' = c := by simpa using hc
        decide
      | cons d front => exact h.head c hc
    · intro c hc
      cases rest with
      | nil =>
        obtain rfl : '-' = c := by simpa using hc
        decide
      | cons d rest =>
        refine h.last c ?_
        simpa using hc

theorem Compacts.ne_nil {cs ds : List Char} (h : Compacts cs ds) (hne : cs ≠ []) : ds ≠ [] := by
  cases h with
  | unmarked => exact hne
  | marked => simp

theorem compacts_compact (described : String) : Compacts described.toList (compact described).toList := by
  rw [toList_compact]
  exact Chars.compacts_dropMarker _

theorem compact_trimmed {s : String} (htrim : Text.trim s = s) (hne : s ≠ "") :
    Text.trim (compact s) = compact s ∧ compact s ≠ "" := by
  rw [Text.trim_eq_self_iff] at htrim ⊢
  have hnil : (compact s).toList ≠ [] := (compacts_compact s).ne_nil (by simpa using hne)
  exact ⟨(compacts_compact s).trimmed htrim, fun h => hnil (by rw [h]; rfl)⟩

end VersionStamp.Git
