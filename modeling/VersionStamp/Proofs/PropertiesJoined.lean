/-
Properties of two texts, one behind the other.

A text that ends its last line does not run into the lines of the next (`lines_append`),
and what lines give does not depend on what was read before them: their entries are
put over those already there (`readLines_of_ok`), and a bad line is bad wherever it
stands (`readLines_of_error`). `parse_append` says it of whole texts, and what became
of the keys and the values (`keys_putAll_eq_append`, `get?_putAll_eq_or`).
-/
import VersionStamp.Proofs.PropertiesGrammar
import VersionStamp.Proofs.PropertiesNormalForm

namespace VersionStamp

namespace Ledger

variable {κ β : Type} [DecidableEq κ]

/-- Pairs whose keys differ are told by the order of their keys and by the value of each. -/
theorem eq_of_keys_eq {m m' : Ledger κ β} (hnodup : (keys m).Nodup) (hkeys : keys m = keys m')
    (hvalues : ∀ k, get? m k = get? m' k) : m = m' := by
  induction m generalizing m' with
  | nil =>
    cases m' with
    | nil => rfl
    | cons p m' => simp [keys] at hkeys
  | cons p m ih =>
    obtain ⟨k, v⟩ := p
    cases m' with
    | nil => simp [keys] at hkeys
    | cons p' m' =>
      obtain ⟨k', v'⟩ := p'
      simp only [keys, List.map_cons, List.cons.injEq, List.nodup_cons] at hkeys hnodup
      obtain ⟨rfl, hkeys⟩ := hkeys
      obtain ⟨hk, hnodup⟩ := hnodup
      have hv : v = v' := by simpa [get?] using hvalues k
      have hrest : ∀ l, get? m l = get? m' l := by
        intro l
        by_cases hl : k = l
        · subst hl
          rw [(get?_eq_none_iff m k).2 hk, (get?_eq_none_iff m' k).2 (by rwa [keys, ← hkeys])]
        · simpa [get?, hl] using hvalues l
      rw [hv, ih hnodup hkeys hrest]

/-- The keys that are there keep their places, and the new ones come behind them. -/
theorem keys_putAll_eq_append (m : Ledger κ β) (ps : List (κ × β)) :
    keys (putAll m ps) = keys m ++ (keys (putAll [] ps)).filter (· ∉ keys m) := by
  induction ps using List.reverseRecOn with
  | nil => simp [putAll, keys]
  | append_singleton ps p ih =>
    rw [putAll_concat, putAll_concat, keys_put, keys_put, ih]
    by_cases hlater : p.1 ∈ keys (putAll [] ps) <;> by_cases hm : p.1 ∈ keys m <;> simp [hlater, hm]

/-- A value that was put counts before one that was there. -/
theorem get?_putAll_eq_or (m : Ledger κ β) (ps : List (κ × β)) (k : κ) :
    get? (putAll m ps) k = (get? (putAll [] ps) k).or (get? m k) := by
  induction ps using List.reverseRecOn with
  | nil => rfl
  | append_singleton ps p ih =>
    rw [putAll_concat, putAll_concat]
    by_cases hp : k = p.1
    · rw [hp, get?_put_self, get?_put_self]
      rfl
    · rw [get?_put_other _ _ hp, get?_put_other _ _ hp, ih]

theorem nodup_keys_putAll {m : Ledger κ β} (h : (keys m).Nodup) (ps : List (κ × β)) : (keys (putAll m ps)).Nodup := by
  induction ps using List.reverseRecOn with
  | nil => exact h
  | append_singleton ps p ih =>
    rw [putAll_concat]
    exact nodup_keys_put ih _ _

/-- It comes to the same to gather pairs first and to put them then. -/
theorem putAll_putAll {m : Ledger κ β} (h : (keys m).Nodup) (ps : List (κ × β)) :
    putAll m (putAll [] ps) = putAll m ps := by
  have hgathered : putAll [] (putAll [] ps) = putAll [] ps :=
    putAll_of_nodup (m := []) (nodup_keys_putAll (m := []) List.nodup_nil ps)
  refine eq_of_keys_eq (nodup_keys_putAll h _) ?_ fun k => ?_
  · rw [keys_putAll_eq_append, hgathered, ← keys_putAll_eq_append]
  · rw [get?_putAll_eq_or, hgathered, ← get?_putAll_eq_or]

end Ledger

namespace Text.Chars

theorem prepend_append {c : Char} {ls : List (List Char)} (h : ls ≠ []) (rest : List (List Char)) :
    prepend c (ls ++ rest) = prepend c ls ++ rest := by
  cases ls with
  | nil => exact absurd rfl h
  | cons l ls => rfl

/-- No line is begun and not ended by a line feed. -/
def Ended (cs : List Char) : Prop := cs = [] ∨ cs.getLast? = some '\n'

theorem Ended.tail {c : Char} {cs : List Char} (h : Ended (c :: cs)) : Ended cs := by
  cases cs with
  | nil => exact .inl rfl
  | cons d cs =>
    obtain h | h := h
    · cases h
    · exact .inr (by rwa [List.getLast?_cons_cons] at h)

theorem Ended.eq_newline {c : Char} (h : Ended [c]) : c = '\n' := by
  simpa [Ended] using h

/-- Behind a line feed a new line begins. -/
theorem lines_append {front : List Char} (h : Ended front) (rest : List Char) :
    lines (front ++ rest) = lines front ++ lines rest := by
  fun_induction lines front with
  | case1 => rfl
  | case2 cs ih => rw [List.cons_append, List.cons_append, lines, ih h.tail.tail, List.cons_append]
  | case3 c cs hnext hbreak ih =>
    cases cs with
    | nil =>
      obtain rfl := h.eq_newline
      exact lines_newline rest
    | cons d cs =>
      have hnext' : ∀ cs', c = '\r' → d :: cs ++ rest = '\n' :: cs' → False := by
        intro cs' hc hcs
        obtain ⟨rfl, -⟩ := List.cons_eq_cons.1 hcs
        exact hnext cs hc rfl
      rw [List.cons_append, lines.eq_3 c _ hnext', if_pos hbreak, ih h.tail, List.cons_append]
  | case4 c cs hnext hbreak ih =>
    have hbreak : isBreak c = false := by simpa using hbreak
    have hcs : cs ≠ [] := by
      rintro rfl
      obtain rfl := h.eq_newline
      simp [isBreak] at hbreak
    rw [List.cons_append, lines_cons_of_unbroken hbreak, ih h.tail, prepend_append (lines_ne_nil hcs)]

end Text.Chars

namespace Properties

open Text

variable {lines : List (List Char)} {n : Nat} {entries : Entries}

/-- What lines give is put over what was read before them. -/
theorem readLines_of_ok (h : readLines n [] lines = .ok entries) (n' : Nat) {before : Entries}
    (hbefore : before.keys.Nodup) : readLines n' before lines = .ok (before.putAll entries) := by
  obtain hgood | ⟨front, line, back, rfl, hfront, hline⟩ := first_bad_cases lines
  · rw [readLines_of_no_bad hgood] at h
    obtain rfl := Except.ok.inj h
    rw [readLines_of_no_bad hgood, Ledger.putAll_putAll hbefore]
  · rw [readLines_of_first_bad hfront hline] at h
    cases h

/-- A line is bad whatever was read before it, and is counted from there. -/
theorem readLines_of_error {e : BadLine} (h : readLines n [] lines = .error e) (shift : Nat) (before : Entries) :
    readLines (n + shift) before lines = .error ⟨e.number + shift, e.text⟩ := by
  obtain hgood | ⟨front, line, back, rfl, hfront, hline⟩ := first_bad_cases lines
  · rw [readLines_of_no_bad hgood] at h
    cases h
  · rw [readLines_of_first_bad hfront hline] at h
    obtain rfl := Except.error.inj h
    rw [readLines_of_first_bad hfront hline, Nat.add_right_comm]

theorem parse_append_eq {front : String} (h : Chars.Ended front.toList) (back : String) :
    parse (front ++ back) = (parse front).bind fun entries =>
      readLines (1 + (Chars.lines front.toList).length) entries (Chars.lines back.toList) := by
  rw [parse, String.toList_append, Chars.lines_append h, readLines_append]
  rfl

/-- **Reading is done text by text.** Take a text that is empty or ends with a line feed, and any text behind it. If the
first cannot be read, neither can both, for the same line. If only the second cannot be read, both cannot for that line
of it, counted from the first line of the first. And if each can be read, the entries of the second are put over those of
the first: the keys of the first come first, in their order, then those that only the second has, in theirs, and a key
that the second has, has the value it has there. -/
theorem parse_append {front : String} (h : front = "" ∨ front.toList.getLast? = some '\n') (back : String) :
    (∀ e, parse front = .error e → parse (front ++ back) = .error e) ∧
    (∀ first e, parse front = .ok first → parse back = .error e →
      parse (front ++ back) = .error ⟨e.number + (Chars.lines front.toList).length, e.text⟩) ∧
    (∀ first second, parse front = .ok first → parse back = .ok second →
      ∃ both, parse (front ++ back) = .ok both ∧ both = first.putAll second ∧
        both.keys = first.keys ++ second.keys.filter (· ∉ first.keys) ∧
        ∀ key, both.get? key = (second.get? key).or (first.get? key)) := by
  have hended : Chars.Ended front.toList := h.imp_left fun h => by rw [h]; rfl
  rw [parse_append_eq hended]
  refine ⟨fun e hfront => ?_, fun first e hfront hback => ?_, fun first second hfront hback => ?_⟩
  · rw [hfront]
    rfl
  · rw [hfront]
    exact readLines_of_error hback _ first
  · have hfirst := (normal_of_parse hfront).nodup
    have hsecond : Ledger.putAll [] second = second := Ledger.putAll_of_nodup (m := []) (normal_of_parse hback).nodup
    rw [hfront]
    refine ⟨first.putAll second, readLines_of_ok hback _ hfirst, rfl, ?_, fun key => ?_⟩
    · rw [Ledger.keys_putAll_eq_append, hsecond]
    · rw [Ledger.get?_putAll_eq_or, hsecond]

/-- The front has three lines, one of them empty, so that the second line behind it is the fifth. -/
theorem fifth_line_is_bad :
    "a=1\r\n\u2028b=2\n".toList.getLast? = some '\n' ∧
      parse ("a=1\r\n\u2028b=2\n" ++ "c=3\u000ba=4") = .ok [("a", "4"), ("b", "2"), ("c", "3")] ∧
      parse ("a=1\r\n\u2028b=2\n" ++ "c=3\u000b=4") = .error ⟨5, "=4"⟩ ∧
      parse ("a=1\r\na\n" ++ "=4") = .error ⟨2, "a"⟩ := by
  have hended : "a=1\r\n\u2028b=2\n".toList.getLast? = some '\n' := by decide
  have hfront : parse "a=1\r\n\u2028b=2\n" = .ok [("a", "1"), ("b", "2")] := by decide
  obtain ⟨-, -, hboth⟩ := parse_append (.inr hended) "c=3\u000ba=4"
  obtain ⟨-, hshifted, -⟩ := parse_append (.inr hended) "c=3\u000b=4"
  obtain ⟨hfirst, -, -⟩ := @parse_append "a=1\r\na\n" (.inr (by decide)) "=4"
  obtain ⟨both, hread, rfl, -, -⟩ := hboth _ [("c", "3"), ("a", "4")] hfront (by decide)
  have hbad := hshifted _ ⟨2, "=4"⟩ hfront (by decide)
  exact ⟨hended, hread, hbad, hfirst _ (by decide)⟩

end Properties
end VersionStamp
