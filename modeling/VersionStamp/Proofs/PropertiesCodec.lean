/-
Version information written as properties and read back.

There is no escaping, and none is needed for texts that fit on one line:
`parse_render_eq_ok_iff` says that what is read back is what was written
exactly when the display version and the revision are such texts. The other
values take care of themselves: the comment with the moment of writing stays on
its line (`Moment.text_unbroken`) unless the zone's own name breaks it, and the
mode is a plain word.
-/
import VersionStamp.Proofs.PropertiesLines

namespace VersionStamp

open Text

/-! ## Numerals and moments -/

namespace Text

theorem isBreak_of_isDigit {c : Char} (h : c.isDigit = true) : isBreak c = false := by
  simp only [Char.isDigit, Bool.and_eq_true, decide_eq_true_eq, UInt32.le_iff_toNat_le] at h
  obtain ⟨h₁, h₂⟩ := h
  have h₁ : 48 ≤ c.toNat := h₁
  have h₂ : c.toNat ≤ 57 := h₂
  simp only [isBreak, Bool.or_eq_false_iff, Bool.and_eq_false_iff, decide_eq_false_iff_not, beq_eq_false_iff_ne]
  omega

theorem toDigits_unbroken (n : Nat) : Unbroken (Nat.toDigits 10 n) :=
  fun _ hc => isBreak_of_isDigit (Nat.isDigit_of_mem_toDigits (by decide) (by decide) hc)

theorem toString_unbroken (n : Nat) : Unbroken (toString n).toList := by
  rw [Nat.toString_eq_repr, Nat.toList_repr]
  exact toDigits_unbroken n

theorem padded_unbroken (width n : Nat) : Unbroken (padded width n).toList := by
  rw [padded, String.toList_ofList]
  refine unbroken_append.2 ⟨fun c hc => ?_, toDigits_unbroken n⟩
  rw [(List.mem_replicate.1 hc).2]
  decide

end Text

/-- The name of the zone, if it goes by a name, holds no break. -/
def Zone.Unbroken (z : Zone) : Prop := ∀ name, z = .named name → Text.Unbroken name.toList

theorem Zone.text_unbroken {z : Zone} (h : z.Unbroken) : Text.Unbroken z.text.toList := by
  cases z with
  | named name =>
    rw [Zone.text, String.toList_ofList]
    exact (h name rfl).sublist (List.takeWhile_sublist _)
  | offset us =>
    have hword : ∀ s ∈ ["UTC", "-", "+", ":", ".", ""], Text.Unbroken s.toList := by decide
    simp only [Zone.text]
    split
    · exact hword _ (by simp)
    · simp only [String.toList_append, unbroken_append, padded_unbroken, and_true]
      refine ⟨⟨⟨⟨hword _ (by simp), ?_⟩, hword _ (by simp)⟩, ?_⟩, ?_⟩
      · split <;> exact hword _ (by simp)
      · split
        · exact hword _ (by simp)
        · rw [String.toList_append, unbroken_append]
          exact ⟨hword _ (by simp), padded_unbroken _ _⟩
      · split
        · exact hword _ (by simp)
        · rw [String.toList_append, unbroken_append]
          exact ⟨hword _ (by simp), padded_unbroken _ _⟩

/-- The zone of the program's own clock goes by no name. -/
theorem Moment.unbroken_zone_utc (seconds : Nat) : ∀ z ∈ (Moment.utc seconds).zone, z.Unbroken := by
  rintro _ ⟨⟩ name ⟨⟩

/-- A moment is written without a break, if its zone is. -/
theorem Moment.text_unbroken {m : Moment} (h : ∀ z ∈ m.zone, z.Unbroken) : Text.Unbroken m.text.toList := by
  have hzone : Text.Unbroken ((m.zone.map Zone.text).getD "").toList := by
    cases hz : m.zone with
    | none => decide
    | some z => exact Zone.text_unbroken (h z hz)
  have hsign : ∀ s ∈ ["-", " ", ":"], Text.Unbroken s.toList := by decide
  rw [Moment.text, toList_trim]
  refine .trim ?_
  simp only [String.toList_append, unbroken_append, padded_unbroken, toString_unbroken, hzone,
    hsign "-" (by simp), hsign " " (by simp), hsign ":" (by simp), and_self]

/-! ## The codec -/

namespace Properties

/-- The entries for version information can be written exactly if its two free texts fit on one
line each. -/
theorem writable_entriesOf_iff (info : VersionInfo) :
    Writable (entriesOf info) ↔ OneLine info.displayVersion ∧ OneLine info.revision := by
  constructor
  · intro h
    exact ⟨(h (versionKey, info.displayVersion) (by simp [entriesOf])).2,
      (h (revisionKey, info.revision) (by simp [entriesOf])).2⟩
  · rintro ⟨hversion, hrevision⟩ e he
    have hmode : OneLine info.mode.text := by cases info.mode <;> decide
    simp only [entriesOf, List.mem_cons, List.not_mem_nil, or_false] at he
    have hkey : ∀ k ∈ [versionKey, revisionKey, modeKey], IsKey k := by decide
    rcases he with rfl | rfl | rfl
    · exact ⟨hkey versionKey (by simp), hversion⟩
    · exact ⟨hkey revisionKey (by simp), hrevision⟩
    · exact ⟨hkey modeKey (by simp), hmode⟩

theorem toList_comment (moment rest : String) :
    ("# Generated by buildstamp on " ++ moment ++ "\n" ++ rest).toList =
      '#' :: (" Generated by buildstamp on ".toList ++ moment.toList) ++ '\n' :: rest.toList := by
  simp

/-- The comment in front is passed over. -/
theorem parse_render {now : Moment} (hzone : ∀ z ∈ now.zone, z.Unbroken) (info : VersionInfo) :
    parse (render info now) = readLines 2 [] (Chars.lines (renderEntries (entriesOf info)).toList) := by
  have hwords : Unbroken ('#' :: " Generated by buildstamp on ".toList) := by decide
  have hcomment : Unbroken ('#' :: (" Generated by buildstamp on ".toList ++ now.text.toList)) :=
    unbroken_append.2 ⟨hwords, Moment.text_unbroken hzone⟩
  have htext : (render info now).toList = _ := toList_comment now.text (renderEntries (entriesOf info))
  rw [parse, htext, Chars.lines_append_newline hcomment, readLines, ofChars_comment (.inl rfl)]

theorem parse_render_of_writable {now : Moment} (hzone : ∀ z ∈ now.zone, z.Unbroken) {info : VersionInfo}
    (h : Writable (entriesOf info)) : parse (render info now) = .ok (entriesOf info) := by
  rw [parse_render hzone, readLines_renderEntries h, Ledger.putAll_of_nodup (m := [])]
  · rfl
  · show (Ledger.keys [] ++ [versionKey, revisionKey, modeKey]).Nodup
    decide

/-- **The properties codec is exact.** What is read back from a file for version information is the
information's three entries, in their order and without an error, if and only if the display version
and the revision neither break into lines nor have blanks at their ends. Equals signs, comment signs
and empty texts do no harm; breaks do, whatever they inject. -/
theorem parse_render_eq_ok_iff {now : Moment} (hzone : ∀ z ∈ now.zone, z.Unbroken) (info : VersionInfo) :
    parse (render info now) = .ok (entriesOf info) ↔ OneLine info.displayVersion ∧ OneLine info.revision :=
  ⟨fun h => (writable_entriesOf_iff info).1 (parse_entries h),
    fun h => parse_render_of_writable hzone ((writable_entriesOf_iff info).2 h)⟩

/-- Signs that mean something to the reader are read back as they stand inside values. -/
theorem parse_render_signs :
    (∀ z ∈ (⟨2024, 1, 2, 3, 4, 5, some (.named "CET")⟩ : Moment).zone, z.Unbroken) ∧
      parse (render ⟨"3", "", .release, "", "#=a!b = c", none⟩ ⟨2024, 1, 2, 3, 4, 5, some (.named "CET")⟩) =
        .ok [("application.version", "#=a!b = c"), ("git.revision", ""), ("build.mode", "release")] := by
  have hzone : ∀ z ∈ (⟨2024, 1, 2, 3, 4, 5, some (.named "CET")⟩ : Moment).zone, z.Unbroken := by
    rintro _ ⟨⟩ name ⟨⟩
    decide
  exact ⟨hzone, (parse_render_eq_ok_iff hzone _).2 (by decide)⟩

end Properties
end VersionStamp
