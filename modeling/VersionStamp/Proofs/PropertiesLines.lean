/-
What reading properties gives, and what it makes of entries that were written.

`readLines_invariant`: what each entry that is put keeps, holds of all that is
read. `parse_entries`: every key that is read is a key as it can be written
(`IsKey`), and every value fits on one line. `parse_renderEntries`: entries
like these, with different keys, are read back as they were.
-/
import VersionStamp.Proofs.OneLine
import VersionStamp.Properties.Entries
import VersionStamp.Properties.Render

namespace VersionStamp.Ledger

variable {κ β : Type} [DecidableEq κ]

theorem mem_put {m : Ledger κ β} {k : κ} {v : β} {e : κ × β} (h : e ∈ put m k v) : e = (k, v) ∨ e ∈ m := by
  induction m with
  | nil => exact .inl (List.mem_singleton.1 h)
  | cons p m ih =>
    obtain ⟨k', v'⟩ := p
    by_cases hk : k' = k
    · simp only [put, hk, if_true, List.mem_cons] at h ⊢
      tauto
    · simp only [put, hk, if_false, List.mem_cons] at h ⊢
      rcases h with h | h
      · exact .inr (.inl h)
      · exact (ih h).imp_right .inr

theorem put_of_not_mem {m : Ledger κ β} {k : κ} (v : β) (h : k ∉ keys m) : put m k v = m ++ [(k, v)] := by
  induction m with
  | nil => rfl
  | cons p m ih =>
    obtain ⟨k', v'⟩ := p
    simp only [keys, List.map_cons, List.mem_cons, not_or] at h
    rw [put, if_neg (Ne.symm h.1), ih h.2, List.cons_append]

/-- New keys that all differ are added at the end, in their order. -/
theorem putAll_of_nodup {m es : Ledger κ β} (h : (keys m ++ keys es).Nodup) : putAll m es = m ++ es := by
  induction es generalizing m with
  | nil => simp [putAll]
  | cons e es ih =>
    have hm : e.1 ∉ keys m := fun hk => (List.nodup_append.1 h).2.2 _ hk e.1 (by simp [keys]) rfl
    have hput : keys (put m e.1 e.2) = keys m ++ [e.1] := by rw [keys_put, if_neg hm]
    have hrest : (keys (put m e.1 e.2) ++ keys es).Nodup := by
      rw [hput, List.append_assoc]
      exact h
    have ih := ih hrest
    rw [putAll, List.foldl_cons]
    rw [putAll] at ih
    rw [ih, put_of_not_mem e.2 hm, List.append_assoc]
    rfl

end Ledger

namespace Properties

open Text
open Text.Chars hiding trim trim_eq_self_iff

/-- A key as it can be written: on one line, not empty, without an equals sign, and not to be
mistaken for a comment. -/
structure IsKey (k : String) : Prop where
  oneLine : OneLine k
  nonempty : k ≠ ""
  noEquals : '=' ∉ k.toList
  notComment : isComment k.toList = false

instance (k : String) : Decidable (IsKey k) :=
  decidable_of_iff (OneLine k ∧ k ≠ "" ∧ '=' ∉ k.toList ∧ isComment k.toList = false)
    ⟨fun h => ⟨h.1, h.2.1, h.2.2.1, h.2.2.2⟩, fun h => ⟨h.1, h.2, h.3, h.4⟩⟩

/-! ## The first equals sign -/

theorem cut_append {key : List Char} (h : '=' ∉ key) (value : List Char) :
    cut (key ++ '=' :: value) = some (key, value) := by
  induction key with
  | nil => simp [cut]
  | cons c key ih =>
    simp only [List.mem_cons, not_or] at h
    rw [List.cons_append, cut, if_neg (Ne.symm h.1), ih h.2]
    rfl

theorem eq_append_of_cut {cs key value : List Char} (h : cut cs = some (key, value)) :
    cs = key ++ '=' :: value ∧ '=' ∉ key := by
  induction cs generalizing key with
  | nil => simp [cut] at h
  | cons c cs ih =>
    rw [cut] at h
    split at h
    next hc =>
      obtain ⟨rfl, rfl⟩ : [] = key ∧ cs = value := by simpa using h
      exact ⟨by rw [hc]; rfl, by simp⟩
    next hc =>
      obtain ⟨⟨k, v⟩, hkv, he⟩ := Option.map_eq_some_iff.1 h
      obtain ⟨rfl, rfl⟩ : c :: k = key ∧ v = value := by simpa using he
      obtain ⟨rfl, hk⟩ := ih hkv
      exact ⟨rfl, by simpa [Ne.symm hc] using hk⟩

/-! ## One line -/

theorem isComment_cons (c : Char) (cs : List Char) : isComment (c :: cs) = decide (c = '#' ∨ c = '!') := by
  simp only [isComment]
  split <;> simp_all

theorem isComment_append {a : List Char} (h : a ≠ []) (b : List Char) : isComment (a ++ b) = isComment a := by
  obtain ⟨c, a, rfl⟩ := List.exists_cons_of_ne_nil h
  rw [List.cons_append, isComment_cons, isComment_cons]

theorem ofChars_comment {c : Char} (hc : c = '#' ∨ c = '!') (cs : List Char) : Line.ofChars (c :: cs) = .skipped := by
  have hblank : isBlank c = false := by rcases hc with rfl | rfl <;> decide
  rw [Line.ofChars, trim_cons hblank, Line.ofTrimmed, isComment_cons, if_pos]
  exact .inr (by simpa using hc)

/-- An entry written with a key and a value that need no trimming is read as that entry. -/
theorem ofChars_entry {k v : String} (hk : IsKey k) (hv : OneLine v) :
    Line.ofChars (k.toList ++ '=' :: v.toList) = .entry k v := by
  have hne : k.toList ≠ [] := by simpa using hk.nonempty
  have hkt := trim_eq_self_iff.1 hk.oneLine.trimmed
  have hvt := trim_eq_self_iff.1 hv.trimmed
  have htrim : Trimmed (k.toList ++ '=' :: v.toList) := by
    by_cases hve : v.toList = []
    · have := hkt.surround (trimmed_singleton (show isBlank '=' = false by decide)) hne (by simp) []
      simpa [hve] using this
    · have := hkt.surround hvt hne hve ['=']
      simpa using this
  rw [Line.ofChars, htrim.trim_eq, Line.ofTrimmed, if_neg, cut_append hk.noEquals]
  · simp [hkt.trim_eq, hvt.trim_eq, hk.nonempty]
  · rw [isComment_append hne, hk.notComment]
    simp [hne]

/-- What a line without a break gives as an entry could have been written. -/
theorem isKey_of_ofChars {cs : List Char} (hcs : Unbroken cs) {k v : String} (h : Line.ofChars cs = .entry k v) :
    IsKey k ∧ OneLine v := by
  rw [Line.ofChars, Line.ofTrimmed] at h
  split at h
  · cases h
  next hline =>
  split at h
  · cases h
  next front value hcut =>
  obtain ⟨hcs', hfront⟩ := eq_append_of_cut hcut
  split at h
  · cases h
  next hkey =>
  obtain ⟨rfl, rfl⟩ : String.ofList (Chars.trim front) = k ∧ String.ofList (Chars.trim value) = v := by simpa using h
  have hunbroken : Unbroken (front ++ '=' :: value) := hcs' ▸ hcs.trim
  obtain ⟨hfront', -, hvalue⟩ : Unbroken front ∧ isBreak '=' = false ∧ Unbroken value := by
    simpa using hunbroken
  refine ⟨⟨.ofList_trim hfront', by simpa using hkey, ?_, ?_⟩, .ofList_trim hvalue⟩
  · simpa using fun hm => hfront ((trim_sublist front).subset hm)
  · -- The key begins where the trimmed line does, so it is a comment only if the line is.
    cases front with
    | nil => exact absurd rfl hkey
    | cons c front =>
      have hc : isBlank c = false := (trimmed_trim cs).head c (by rw [hcs']; rfl)
      rw [hcs', List.cons_append, isComment_cons] at hline
      rw [String.toList_ofList, trim_cons hc, isComment_cons]
      simpa using hline

/-! ## All lines -/

/-- What has been read so far could have been written. -/
def Writable (entries : Entries) : Prop := ∀ e ∈ entries, IsKey e.1 ∧ OneLine e.2

theorem Writable.put {entries : Entries} (h : Writable entries) {k v : String} (hk : IsKey k) (hv : OneLine v) :
    Writable (entries.put k v) := by
  intro e he
  rcases Ledger.mem_put he with rfl | he
  · exact ⟨hk, hv⟩
  · exact h e he

/-- What putting an entry that could have been written keeps, holds of whatever is read. -/
theorem readLines_invariant {P : Entries → Prop}
    (hput : ∀ entries k v, P entries → IsKey k → OneLine v → P (entries.put k v)) {ls : List (List Char)}
    (hls : ∀ l ∈ ls, Unbroken l) {n : Nat} {before after : Entries} (hbefore : P before)
    (h : readLines n before ls = .ok after) : P after := by
  induction ls generalizing n before with
  | nil =>
    obtain rfl : before = after := by simpa [readLines] using h
    exact hbefore
  | cons l ls ih =>
    have hls' := fun l' hl' => hls l' (List.mem_cons_of_mem _ hl')
    rw [readLines] at h
    split at h
    next => exact ih hls' hbefore h
    next k v hl =>
      obtain ⟨hk, hv⟩ := isKey_of_ofChars (hls l List.mem_cons_self) hl
      exact ih hls' (hput before k v hbefore hk hv) h
    next => cases h

/-- Whatever is read could have been written. -/
theorem parse_entries {content : String} {entries : Entries} (h : parse content = .ok entries) :
    Writable entries :=
  readLines_invariant (fun _ _ _ hbefore hk hv => hbefore.put hk hv) (unbroken_of_mem_lines _) (by simp [Writable]) h

/-- Lines of entries are read one by one, whatever was read before them. -/
theorem readLines_renderEntries {es : Entries} (hes : Writable es) (n : Nat) (before : Entries) :
    readLines n before (lines (renderEntries es).toList) = .ok (before.putAll es) := by
  induction es generalizing n before with
  | nil => rfl
  | cons e es ih =>
    obtain ⟨hk, hv⟩ := hes e List.mem_cons_self
    have htext : (renderEntries (e :: es)).toList =
        (e.1.toList ++ '=' :: e.2.toList) ++ '\n' :: (renderEntries es).toList := by
      simp [renderEntries]
    have hline : Unbroken (e.1.toList ++ '=' :: e.2.toList) :=
      unbroken_append.2 ⟨hk.oneLine.unbroken, unbroken_cons.2 ⟨by decide, hv.unbroken⟩⟩
    rw [htext, lines_append_newline hline, readLines, ofChars_entry hk hv]
    exact ih (fun e' he' => hes e' (List.mem_cons_of_mem _ he')) _ _

/-- Entries that can be written and have different keys are read back as they were. -/
theorem parse_renderEntries {es : Entries} (hes : Writable es) (hkeys : es.keys.Nodup) :
    parse (renderEntries es) = .ok es := by
  rw [parse, readLines_renderEntries hes, Ledger.putAll_of_nodup (m := []) hkeys]
  rfl

/-- How the ends of lines are written does not matter. -/
theorem parse_unifyBreaks (content : String) : parse (Text.unifyBreaks content) = parse content := by
  rw [parse, toList_unifyBreaks, lines_unifyBreaks, parse]

end Properties
end VersionStamp
