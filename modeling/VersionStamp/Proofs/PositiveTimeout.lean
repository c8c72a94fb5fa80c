/-
The timeout of the settings is positive, or not a number.

The guard asks for a timeout that is not nought or less. That is a positive one
except where nothing compares at all, so `timeout_positive_iff` has one
exception, and `read?_eq_nan_iff` says which texts it is: `nan` in any mix of
cases, with or without a sign (`nan_timeout_is_accepted`). Every other text that
denotes no positive double, one that comes out as nought included, is refused.
-/
import VersionStamp.Proofs.UsableSettings

namespace VersionStamp

namespace Binary64

theorem scaled_eq_none_iff {a : Binary64} : a.scaled = none ↔ a = .nan := by
  cases a with
  | nan => exact iff_of_true rfl rfl
  | infinite negative => exact iff_of_false nofun nofun
  | finite negative units => exact iff_of_false nofun nofun

/-- A number that is not at most nought is above it. -/
theorem zero_lt_iff {a : Binary64} : zero.lt a = true ↔ a ≠ .nan ∧ a.le zero = false := by
  have hzero : zero.scaled = some 0 := rfl
  cases ha : a.scaled with
  | none =>
    have hlt : zero.lt a = false := by simp [lt, ha]
    rw [hlt]
    simp [scaled_eq_none_iff.1 ha]
  | some x =>
    have hnan : a ≠ .nan := by
      intro h
      rw [scaled_eq_none_iff.2 h] at ha
      cases ha
    simp [lt, le, ha, hzero, hnan]

theorem ofRatio_ne_nan (negative : Bool) (num den : Nat) : ofRatio negative num den ≠ .nan := by
  simp only [ofRatio]
  split <;> simp

end Binary64

/-! ## Letters and digits -/

namespace Text

theorem isDigit_ofNat : ∀ v : Fin 10, (Char.ofNat (0x30 + v)).isDigit = true := by decide

/-- A character that is read as anything but a digit is read as it stands. -/
theorem asciiDigit_of_not_isDigit {c : Char} (h : (asciiDigit c).isDigit = false) : asciiDigit c = c := by
  rw [asciiDigit] at h ⊢
  split at h
  next v hv =>
    have hlt : v < 10 := by
      obtain ⟨z, hz, rfl⟩ := Option.map_eq_some_iff.1 hv
      have hrange := List.find?_some hz
      simp only [Bool.and_eq_true, decide_eq_true_eq] at hrange
      omega
    have hdigit := isDigit_ofNat ⟨v, hlt⟩
    rw [h] at hdigit
    cases hdigit
  next => rfl

theorem map_asciiDigit_eq_self {cs : List Char} (h : ∀ c ∈ cs.map asciiDigit, c.isDigit = false) :
    cs.map asciiDigit = cs := by
  have hself : ∀ c ∈ cs, asciiDigit c = id c := by
    intro c hc
    exact asciiDigit_of_not_isDigit (h _ (List.mem_map_of_mem hc))
  rw [List.map_congr_left hself, List.map_id]

/-- What becomes a small letter is that letter, or its capital. -/
theorem mem_of_toLower {c small capital : Char} (h : c.toLower = small) (hcase : capital.toNat + 32 = small.toNat) :
    c ∈ [small, capital] := by
  by_cases hupper : c.val ≥ 'A'.val ∧ c.val ≤ 'Z'.val
  · have hval : c.val + 32 = small.val := by
      rw [← h]
      delta Char.toLower
      rw [dif_pos hupper]
      rfl
    have hc : c.val.toNat ≤ 90 := hupper.2
    have hsum : small.val.toNat = c.val.toNat + 32 := by
      rw [← hval, UInt32.toNat_add]
      exact Nat.mod_eq_of_lt (show c.val.toNat + 32 < 2 ^ 32 by omega)
    have hcode : c.toNat = capital.toNat := Nat.add_right_cancel (hsum.symm.trans hcase.symm)
    simp [Char.toNat_inj.1 hcode]
  · delta Char.toLower at h
    rw [dif_neg hupper] at h
    simp [h]

end Text

/-! ## Texts that denote no number -/

namespace Decimal

theorem round_ne_nan (negative : Bool) (m : Nat) (e : Int) : round negative m e ≠ .nan := by
  simp only [round]
  split
  · simp
  · split
    · simp
    · split
      · simp
      · split
        · exact Binary64.ofRatio_ne_nan _ _ _
        · exact Binary64.ofRatio_ne_nan _ _ _

theorem unsigned?_ne_nan (negative : Bool) (cs : List Char) : unsigned? negative cs ≠ some .nan := by
  have hround : ∀ (digits : List Char) (places : Nat) (exponent : Option Int),
      (if digits = [] then none else exponent.map fun e => round negative (digitsValue digits) (e - places)) ≠
        some .nan := by
    intro digits places exponent h
    split at h
    · cases h
    · obtain ⟨e, -, hnan⟩ := Option.map_eq_some_iff.1 h
      exact round_ne_nan _ _ _ hnan
  intro h
  simp only [unsigned?] at h
  split at h
  · exact hround _ _ _ h
  · exact hround _ _ _ h

/-- Where no digit is left, there was no `_` to leave out. -/
theorem eq_of_withoutSeparators {previous : Char} {cs ds : List Char} (h : withoutSeparators previous cs = some ds)
    (hprevious : previous.isDigit = false) (hds : ∀ c ∈ ds, c.isDigit = false) : cs = ds := by
  induction cs generalizing previous ds with
  | nil =>
    simp only [withoutSeparators] at h
    split at h
    · cases h
    · exact Option.some.inj h
  | cons c cs ih =>
    simp only [withoutSeparators, hprevious, Bool.false_eq_true, if_false] at h
    split at h
    · cases h
    · split at h
      · cases h
      · obtain ⟨rest, hrest, rfl⟩ := Option.map_eq_some_iff.1 h
        have hc : c.isDigit = false := hds c List.mem_cons_self
        rw [ih hrest hc fun d hd => hds d (List.mem_cons_of_mem _ hd)]

/-- `nan` in any mix of cases, with or without a sign in front. -/
def SpellsNan (s : String) : Prop :=
  ∃ front ∈ [[], ['+'], ['-']], ∃ n ∈ ['n', 'N'], ∃ a ∈ ['a', 'A'], ∃ n' ∈ ['n', 'N'], s.toList = front ++ [n, a, n']

theorem sign_append (cs : List Char) : ∃ front ∈ [[], ['+'], ['-']], cs = front ++ (sign cs).2 := by
  fun_cases sign cs with
  | case1 cs => exact ⟨['-'], by simp, rfl⟩
  | case2 cs => exact ⟨['+'], by simp, rfl⟩
  | case3 cs => exact ⟨[], by simp, rfl⟩

/-- The letters of `nan` in any mix of cases are these. -/
theorem letters_of_map_toLower {cs : List Char} (h : cs.map Char.toLower = ['n', 'a', 'n']) :
    ∃ n ∈ ['n', 'N'], ∃ a ∈ ['a', 'A'], ∃ n' ∈ ['n', 'N'], cs = [n, a, n'] := by
  obtain ⟨n, cs, rfl, hfirst, h⟩ := List.map_eq_cons_iff.1 h
  obtain ⟨a, cs, rfl, hsecond, h⟩ := List.map_eq_cons_iff.1 h
  obtain ⟨n', cs, rfl, hthird, h⟩ := List.map_eq_cons_iff.1 h
  obtain rfl := List.map_eq_nil_iff.1 h
  exact ⟨n, Text.mem_of_toLower hfirst rfl, a, Text.mem_of_toLower hsecond rfl, n', Text.mem_of_toLower hthird rfl, rfl⟩

/-- What can be checked of each spelling holds of all. -/
theorem forall_spellings {p : List Char → Bool}
    (h : ([[], ['+'], ['-']].all fun front => ['n', 'N'].all fun n => ['a', 'A'].all fun a => ['n', 'N'].all fun n' =>
      p (front ++ [n, a, n'])) = true) :
    ∀ front ∈ [[], ['+'], ['-']], ∀ n ∈ ['n', 'N'], ∀ a ∈ ['a', 'A'], ∀ n' ∈ ['n', 'N'],
      p (front ++ [n, a, n']) = true := by
  simpa only [List.all_eq_true] using h

/-- Each of them is read as what is not a number, and no digit stands in it. -/
theorem spelling {front : List Char} (hfront : front ∈ [[], ['+'], ['-']]) {n a n' : Char} (hn : n ∈ ['n', 'N'])
    (ha : a ∈ ['a', 'A']) (hn' : n' ∈ ['n', 'N']) :
    read? (String.ofList (front ++ [n, a, n'])) = some .nan ∧ ∀ c ∈ front ++ [n, a, n'], c.isDigit = false := by
  have hread := forall_spellings (p := fun cs => read? (String.ofList cs) = some .nan) (by decide)
    front hfront n hn a ha n' hn'
  have hdigits := forall_spellings (p := fun cs => cs.all fun c => !c.isDigit) (by decide) front hfront n hn a ha n' hn'
  refine ⟨of_decide_eq_true hread, fun c hc => ?_⟩
  simpa using List.all_eq_true.1 hdigits c hc

/-- Only these words are read as what is not a number. -/
theorem read?_eq_nan_iff {s : String} : read? s = some .nan ↔ SpellsNan s := by
  constructor
  · intro h
    simp only [read?] at h
    split at h
    · cases h
    next cs hcs =>
    split at h
    · cases h
    split at h
    next hnan =>
      have hword : (sign cs).2.map Char.toLower = ['n', 'a', 'n'] := by
        have hletters : String.ofList ((sign cs).2.map Char.toLower) = "nan" := by simpa using hnan
        simpa using congrArg String.toList hletters
      obtain ⟨n, hn, a, ha, n', hn', hletters⟩ := letters_of_map_toLower hword
      obtain ⟨front, hfront, hsign⟩ := sign_append cs
      rw [hletters] at hsign
      -- A sign and letters: no digit stands among them, so the text is these characters.
      have hdigits : ∀ c ∈ cs, c.isDigit = false := by
        rw [hsign]
        exact (spelling hfront hn ha hn').2
      have hmapped : s.toList.map Text.asciiDigit = cs := eq_of_withoutSeparators hcs (by decide) hdigits
      refine ⟨front, hfront, n, hn, a, ha, n', hn', ?_⟩
      rw [← hsign, ← hmapped]
      exact (Text.map_asciiDigit_eq_self (by rwa [hmapped])).symm
    · exact absurd h (unsigned?_ne_nan _ _)
  · intro h
    obtain ⟨front, hfront, n, hn, a, ha, n', hn', hs⟩ := h
    rw [← String.ofList_toList (s := s), hs]
    exact (spelling hfront hn ha hn').1

end Decimal

namespace Settings

open Decimal (SpellsNan)

/-- What an environment says about the timeout. -/
def timeoutText (env : Environment) : String := Text.trim (env.text Environment.gitTimeout)

/-- Whether there are settings is up to the timeout, and it is the one that was read. -/
theorem ofEnvironment_timeout (env : Environment) :
    match if timeoutText env = "" then .ok initial.gitTimeout else timeoutOf (timeoutText env) with
    | .error e => ofEnvironment env = .error e
    | .ok seconds => ∃ s, ofEnvironment env = .ok s ∧ s.gitTimeout = seconds := by
  have htext : Text.trim (env.text Environment.gitTimeout) = timeoutText env := rfl
  simp only [ofEnvironment, htext]
  cases if timeoutText env = "" then .ok initial.gitTimeout else timeoutOf (timeoutText env) with
  | error e => rfl
  | ok seconds => exact ⟨_, rfl, rfl⟩

theorem timeoutOf_cases (text : String) :
    (∃ e, timeoutOf text = .error e) ∧ (∀ seconds, Decimal.read? text = some seconds → seconds.le .zero = true) ∨
      ∃ seconds, timeoutOf text = .ok seconds ∧ Decimal.read? text = some seconds ∧ seconds.le .zero = false := by
  cases hread : Decimal.read? text with
  | none => exact .inl ⟨⟨_, by rw [timeoutOf, hread]⟩, nofun⟩
  | some seconds =>
    cases hle : seconds.le .zero with
    | true =>
      refine .inl ⟨⟨.timeoutNotPositive text, by simp only [timeoutOf, hread, hle, if_true]⟩, ?_⟩
      intro other hother
      rwa [← Option.some.inj hother]
    | false => exact .inr ⟨seconds, by simp only [timeoutOf, hread, hle]; rfl, rfl, hle⟩

/-- **The timeout of an environment is positive, or not a number.** There are settings, unless a text is
given for the timeout that denotes neither a positive double nor what is not a number; their timeout is the
usual one, or the one that the text denotes; and it is above nought except where the text is `nan`. -/
theorem timeout_positive_iff (env : Environment) :
    ((∃ e, ofEnvironment env = .error e) ∧ timeoutText env ≠ "" ∧ ¬SpellsNan (timeoutText env) ∧
      ∀ seconds, Decimal.read? (timeoutText env) = some seconds → Binary64.zero.lt seconds = false) ∨
    ∃ s, ofEnvironment env = .ok s ∧
      (timeoutText env = "" ∧ s.gitTimeout = initial.gitTimeout ∨
        Decimal.read? (timeoutText env) = some s.gitTimeout) ∧
      (Binary64.zero.lt s.gitTimeout = true ↔ ¬SpellsNan (timeoutText env)) := by
  have hsettings := ofEnvironment_timeout env
  by_cases hempty : timeoutText env = ""
  · rw [if_pos hempty] at hsettings
    obtain ⟨s, hs, htimeout⟩ := hsettings
    refine .inr ⟨s, hs, .inl ⟨hempty, htimeout⟩, ?_⟩
    have hinitial : Binary64.zero.lt initial.gitTimeout = true := by decide +kernel
    have hword : ¬SpellsNan "" := by
      intro hnan
      cases Decimal.read?_eq_nan_iff.2 hnan
    rw [htimeout, hempty]
    exact iff_of_true hinitial hword
  rw [if_neg hempty] at hsettings
  obtain ⟨⟨e, he⟩, hrefused⟩ | ⟨seconds, hok, hread, hle⟩ := timeoutOf_cases (timeoutText env)
  · rw [he] at hsettings
    refine .inl ⟨⟨e, hsettings⟩, hempty, ?_, ?_⟩
    · intro hnan
      cases hrefused _ (Decimal.read?_eq_nan_iff.2 hnan)
    · intro seconds hread
      rw [← Bool.not_eq_true, Binary64.zero_lt_iff, hrefused seconds hread]
      simp
  · rw [hok] at hsettings
    obtain ⟨s, hs, rfl⟩ := hsettings
    refine .inr ⟨s, hs, .inr hread, ?_⟩
    rw [Binary64.zero_lt_iff, ← Decimal.read?_eq_nan_iff, hread]
    simp [hle]

/-- Blanks, a digit of another script and a `_` in front of an exponent. -/
theorem padded_timeout_is_positive :
    ∃ s, ofEnvironment [(Environment.gitTimeout, "\u2003+\uff11_0e-1 ")] = .ok s ∧
      s.gitTimeout = .finite false Binary64.unitsPerOne ∧ Binary64.zero.lt s.gitTimeout = true := by
  have hread : Decimal.read? (timeoutText [(Environment.gitTimeout, "\u2003+\uff11_0e-1 ")]) =
      some (.finite false Binary64.unitsPerOne) := by decide +kernel
  obtain ⟨-, -, -, hrefused⟩ | ⟨s, hs, ⟨hempty, -⟩ | htimeout, hpositive⟩ :=
    timeout_positive_iff [(Environment.gitTimeout, "\u2003+\uff11_0e-1 ")]
  · exact absurd (hrefused _ hread) (by decide +kernel)
  · exact absurd hempty (by decide +kernel)
  · refine ⟨s, hs, Option.some.inj (htimeout.symm.trans hread), hpositive.2 fun hnan => ?_⟩
    cases (Decimal.read?_eq_nan_iff.2 hnan).symm.trans hread

/-- What is not a number is not above nought, but it is not at most nought either. -/
theorem nan_timeout_is_accepted :
    ofEnvironment [(Environment.gitTimeout, "nan")] = .ok { initial with gitTimeout := .nan } ∧
      Binary64.zero.lt .nan = false :=
  ⟨by decide +kernel, rfl⟩

end Settings
end VersionStamp
