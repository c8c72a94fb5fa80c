/-
Which texts are read as properties, and what is read of them.

`readLines_of_no_bad`: as long as no line is bad, the entries of the lines are put
one after the other. `readLines_of_first_bad`: the first bad line is the error,
whatever stands behind it. So the text decides by its lines alone
(`parse_reads_grammar`), and what is read has each key once, where it first came,
with the value that came last (`keys_putAll`, `get?_putAll`).
-/
import VersionStamp.Proofs.PropertiesLines

namespace VersionStamp.Ledger

variable {κ β : Type} [DecidableEq κ]

theorem putAll_concat (m : Ledger κ β) (ps : List (κ × β)) (p : κ × β) :
    putAll m (ps ++ [p]) = put (putAll m ps) p.1 p.2 := by
  rw [putAll, List.foldl_concat, putAll]

/-- Each key stands once, in the place where it first came. -/
theorem keys_putAll (ps : List (κ × β)) : keys (putAll [] ps) = (ps.map (·.1)).eraseDups := by
  induction ps using List.reverseRecOn with
  | nil => rfl
  | append_singleton ps p ih =>
    rw [putAll_concat, keys_put, ih, List.map_append, List.map_singleton, List.eraseDups_append]
    by_cases hp : p.1 ∈ ps.map (·.1)
    · simp [List.mem_eraseDups, hp, List.removeAll]
    · simp [List.mem_eraseDups, hp, List.removeAll, List.eraseDups_cons]

/-- The value that came last counts. -/
theorem get?_putAll (ps : List (κ × β)) (k : κ) :
    get? (putAll [] ps) k = (ps.filter (·.1 = k)).getLast?.map (·.2) := by
  induction ps using List.reverseRecOn with
  | nil => rfl
  | append_singleton ps p ih =>
    rw [putAll_concat, List.filter_append]
    by_cases hp : p.1 = k
    · have hlast : [p].filter (·.1 = k) = [p] := List.filter_cons_of_pos (decide_eq_true hp)
      rw [hlast, List.getLast?_concat, ← hp, get?_put_self]
      rfl
    · have hother : [p].filter (·.1 = k) = [] := List.filter_cons_of_neg (mt of_decide_eq_true hp)
      rw [hother, List.append_nil, get?_put_other _ _ (Ne.symm hp), ih]

end Ledger

namespace Properties

open Text
open Text.Chars hiding trim trim_eq_self_iff

/-! ## One line -/

/-- A line that is neither blank nor a comment. -/
structure Counts (line : List Char) : Prop where
  nonblank : Chars.trim line ≠ []
  noHash : (Chars.trim line).head? ≠ some '#'
  noExclamation : (Chars.trim line).head? ≠ some '!'

/-- A line that counts and has no key: it is without an equals sign, or begins with one. -/
structure Bad (line : List Char) : Prop extends Counts line where
  noKey : '=' ∉ Chars.trim line ∨ (Chars.trim line).head? = some '='

theorem counts_iff_head {line : List Char} :
    Counts line ↔ Chars.trim line ≠ [] ∧ (Chars.trim line).head? ≠ some '#' ∧ (Chars.trim line).head? ≠ some '!' :=
  ⟨fun h => ⟨h.1, h.2, h.3⟩, fun h => ⟨h.1, h.2.1, h.2.2⟩⟩

instance (line : List Char) : Decidable (Counts line) := decidable_of_iff _ counts_iff_head.symm

instance (line : List Char) : Decidable (Bad line) :=
  decidable_of_iff (Counts line ∧ ('=' ∉ Chars.trim line ∨ (Chars.trim line).head? = some '='))
    ⟨fun h => ⟨h.1, h.2⟩, fun h => ⟨h.1, h.2⟩⟩

/-- What stands before the first equals sign of a line, and what stands behind it, without the blanks
around either. -/
def entryOn (line : List Char) : String × String :=
  (String.ofList (Chars.trim ((Chars.trim line).takeWhile (· ≠ '='))),
    String.ofList (Chars.trim ((Chars.trim line).dropWhile (· ≠ '=')).tail))

/-- The entries on the lines that count, in the order of the lines. -/
def entriesOn (lines : List (List Char)) : List (String × String) := (lines.filter (Counts ·)).map entryOn

theorem counts_iff {line : List Char} :
    Counts line ↔ ¬(Chars.trim line = [] ∨ isComment (Chars.trim line) = true) := by
  rw [counts_iff_head]
  cases Chars.trim line with
  | nil => simp
  | cons c cs => simp [isComment_cons]

theorem ofChars_of_not_counts {line : List Char} (h : ¬Counts line) : Line.ofChars line = .skipped := by
  rw [counts_iff, not_not] at h
  rw [Line.ofChars, Line.ofTrimmed, if_pos h]

theorem cut_eq_none_iff {cs : List Char} : cut cs = none ↔ '=' ∉ cs := by
  constructor
  · intro h hmem
    obtain ⟨key, value, rfl, hkey⟩ := List.eq_append_cons_of_mem hmem
    rw [cut_append hkey] at h
    cases h
  · intro h
    rw [Option.eq_none_iff_forall_ne_some]
    rintro ⟨key, value⟩ hcut
    obtain ⟨rfl, -⟩ := eq_append_of_cut hcut
    exact h (List.mem_append_right key List.mem_cons_self)

/-- What stands in front of the equals sign is blank only if nothing does, as the line begins with no blank. -/
theorem trim_key_eq_nil_iff {line key value : List Char} (h : Chars.trim line = key ++ '=' :: value) :
    Chars.trim key = [] ↔ key = [] := by
  cases key with
  | nil => exact iff_of_true rfl rfl
  | cons c key =>
    have hc : isBlank c = false := (trimmed_trim line).head c (by rw [h]; rfl)
    rw [trim_cons hc]
    simp

theorem ofChars_of_bad {line : List Char} (h : Bad line) :
    Line.ofChars line = .malformed (String.ofList (Chars.trim line)) := by
  rw [Line.ofChars, Line.ofTrimmed, if_neg (counts_iff.1 h.toCounts)]
  cases hcut : cut (Chars.trim line) with
  | none => rfl
  | some front =>
    obtain ⟨key, value⟩ := front
    obtain ⟨hline, hkey⟩ := eq_append_of_cut hcut
    have hnone : key = [] := by
      obtain hmem | hhead := h.noKey
      · exact absurd (cut_eq_none_iff.2 hmem) (by simp [hcut])
      · cases key with
        | nil => rfl
        | cons c key =>
          obtain rfl : c = '=' := by simpa [hline] using hhead
          exact absurd List.mem_cons_self hkey
    exact if_pos ((trim_key_eq_nil_iff hline).2 hnone)

theorem ofChars_of_counts {line : List Char} (h : Counts line) (hgood : ¬Bad line) :
    Line.ofChars line = .entry (entryOn line).1 (entryOn line).2 := by
  have hmem : '=' ∈ Chars.trim line := by
    by_contra hmem
    exact hgood ⟨h, .inl hmem⟩
  obtain ⟨key, value, hline, hkey⟩ := List.eq_append_cons_of_mem hmem
  have hkey' : key ≠ [] := by
    rintro rfl
    exact hgood ⟨h, .inr (by rw [hline]; rfl)⟩
  have hbefore : ∀ c ∈ key, decide (c ≠ '=') = true := fun c hc => decide_eq_true fun he => hkey (he ▸ hc)
  have hentry : entryOn line = (String.ofList (Chars.trim key), String.ofList (Chars.trim value)) := by
    rw [entryOn, hline, List.takeWhile_append_of_pos hbefore, List.dropWhile_append_of_pos hbefore]
    simp
  rw [hentry, Line.ofChars, Line.ofTrimmed, if_neg (counts_iff.1 h), hline, cut_append hkey]
  exact if_neg fun hblank => hkey' ((trim_key_eq_nil_iff hline).1 hblank)

/-! ## All lines -/

/-- Reading can stop between two lines and go on. -/
theorem readLines_append (n : Nat) (before : Entries) (front back : List (List Char)) :
    readLines n before (front ++ back) =
      (readLines n before front).bind fun entries => readLines (n + front.length) entries back := by
  induction front generalizing n before with
  | nil => rfl
  | cons line front ih =>
    have hn : n + 1 + front.length = n + (line :: front).length := by
      rw [List.length_cons]
      omega
    rw [List.cons_append, readLines, readLines, ← hn]
    cases Line.ofChars line with
    | skipped => exact ih _ _
    | entry key value => exact ih _ _
    | malformed text => rfl

/-- Without a bad line all entries are put, one after the other. -/
theorem readLines_of_no_bad {lines : List (List Char)} (h : ∀ line ∈ lines, ¬Bad line) (n : Nat) (before : Entries) :
    readLines n before lines = .ok (before.putAll (entriesOn lines)) := by
  induction lines generalizing n before with
  | nil => rfl
  | cons line lines ih =>
    obtain ⟨hline, hlines⟩ := List.forall_mem_cons.1 h
    by_cases hcounts : Counts line
    · have hentries : entriesOn (line :: lines) = entryOn line :: entriesOn lines := by
        simp [entriesOn, hcounts]
      rw [readLines, ofChars_of_counts hcounts hline, hentries]
      exact ih hlines _ _
    · have hentries : entriesOn (line :: lines) = entriesOn lines := by simp [entriesOn, hcounts]
      rw [readLines, ofChars_of_not_counts hcounts, hentries]
      exact ih hlines _ _

/-- The first bad line is the error. -/
theorem readLines_of_first_bad {front : List (List Char)} (h : ∀ line ∈ front, ¬Bad line) {line : List Char}
    (hline : Bad line) (n : Nat) (before : Entries) (back : List (List Char)) :
    readLines n before (front ++ line :: back) = .error ⟨n + front.length, String.ofList (Chars.trim line)⟩ := by
  rw [readLines_append, readLines_of_no_bad h]
  show readLines (n + front.length) _ (line :: back) = _
  rw [readLines, ofChars_of_bad hline]

/-- Either no line is bad, or there is a first one that is. -/
theorem first_bad_cases (lines : List (List Char)) :
    (∀ line ∈ lines, ¬Bad line) ∨
      ∃ front line back, lines = front ++ line :: back ∧ (∀ l ∈ front, ¬Bad l) ∧ Bad line := by
  cases hfind : lines.find? (Bad ·) with
  | none =>
    refine .inl fun line hline => ?_
    simpa using List.find?_eq_none.1 hfind line hline
  | some line =>
    obtain ⟨hbad, front, back, hlines, hfront⟩ := List.find?_eq_some_iff_append.1 hfind
    exact .inr ⟨front, line, back, hlines, by simpa using hfront, of_decide_eq_true hbad⟩

/-- **Reading refuses exactly the texts with a bad line.** The error then names the first of these by its number
from one and by its text without the blanks around it. Of any other text each key on a line that counts is read
once: the keys stand in the order in which they first came, and each has the value of the last line with that
key. -/
theorem parse_reads_grammar (content : String) :
    ((∃ e, parse content = .error e) ↔ ∃ line ∈ Chars.lines content.toList, Bad line) ∧
    (∀ e, parse content = .error e →
      ∃ front line back, Chars.lines content.toList = front ++ line :: back ∧ (∀ l ∈ front, ¬Bad l) ∧ Bad line ∧
        e.number = front.length + 1 ∧ e.text = String.ofList (Chars.trim line) ∧
        e.message = "line " ++ toString (front.length + 1) ++ ": expected key=value, got '" ++
          String.ofList (Chars.trim line) ++ "'") ∧
    (∀ entries, parse content = .ok entries →
      entries.keys = ((entriesOn (Chars.lines content.toList)).map (·.1)).eraseDups ∧
        ∀ key, entries.get? key =
          ((entriesOn (Chars.lines content.toList)).filter (·.1 = key)).getLast?.map (·.2)) := by
  obtain hgood | ⟨front, line, back, hlines, hfront, hline⟩ := first_bad_cases (Chars.lines content.toList)
  · have hparse : parse content = .ok (Ledger.putAll [] (entriesOn (Chars.lines content.toList))) :=
      readLines_of_no_bad hgood 1 []
    have hnone : ¬∃ line ∈ Chars.lines content.toList, Bad line := by
      rintro ⟨line, hmem, hline⟩
      exact hgood line hmem hline
    rw [hparse]
    refine ⟨iff_of_false (by simp) hnone, by simp, ?_⟩
    rintro entries ⟨⟩
    exact ⟨Ledger.keys_putAll _, Ledger.get?_putAll _⟩
  · have hparse : parse content = .error ⟨1 + front.length, String.ofList (Chars.trim line)⟩ := by
      rw [parse, hlines, readLines_of_first_bad hfront hline]
    have hmem : line ∈ Chars.lines content.toList := by
      rw [hlines]
      exact List.mem_append_right front List.mem_cons_self
    have hnumber : 1 + front.length = front.length + 1 := Nat.add_comm 1 front.length
    rw [hparse]
    refine ⟨iff_of_true ⟨_, rfl⟩ ⟨line, hmem, hline⟩, ?_, by simp⟩
    rintro e ⟨⟩
    exact ⟨front, line, back, hlines, hfront, hline, hnumber, rfl, by rw [BadLine.message, hnumber]⟩

/-- A key that comes again keeps its place; `\r\n` ends one line and a vertical tab another, so that the bad line is
the third. -/
theorem third_line_has_no_key :
    (∃ entries, parse "a = 1\r\n! =\u000bb==x\u001ca=2" = .ok entries ∧ entries.keys = ["a", "b"] ∧
      entries.get? "a" = some "2" ∧ entries.get? "b" = some "=x") ∧
    ∃ e, parse "a = 1\r\n! =\u000b = x\u001cb" = .error e ∧
      e.message = "line 3: expected key=value, got '= x'" := by
  have hread : parse "a = 1\r\n! =\u000bb==x\u001ca=2" = .ok [("a", "2"), ("b", "=x")] := by decide
  have hrefused : parse "a = 1\r\n! =\u000b = x\u001cb" = .error ⟨3, "= x"⟩ := by decide
  obtain ⟨-, -, hentries⟩ := parse_reads_grammar "a = 1\r\n! =\u000bb==x\u001ca=2"
  obtain ⟨-, hnamed, -⟩ := parse_reads_grammar "a = 1\r\n! =\u000b = x\u001cb"
  obtain ⟨hkeys, hvalues⟩ := hentries _ hread
  obtain ⟨front, line, -, -, -, -, hnumber, htext, hmessage⟩ := hnamed _ hrefused
  refine ⟨⟨_, hread, hkeys.trans (by decide +kernel), (hvalues "a").trans (by decide +kernel),
    (hvalues "b").trans (by decide +kernel)⟩, _, hrefused, ?_⟩
  rw [hmessage, ← hnumber, ← htext]
  decide

end Properties
end VersionStamp
