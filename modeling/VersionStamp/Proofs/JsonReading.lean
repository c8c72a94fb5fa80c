/-
JSON that is read back.

An escaped character is told from whatever stands behind it (`readChar_escaped`), and
so is a text from its closing quote (`text_append_inj`), a field from the next, and
in the end an object: two objects written the same have the same fields
(`object_inj`). All of it is ASCII (`ascii_object`).
-/
import VersionStamp.Json
import VersionStamp.Proofs.HexNumerals

namespace VersionStamp.Json

/-! ## Characters -/

/-- The unit that four digits in front stand for, and what stands behind them. -/
def readUnit : List Char → Option (Nat × List Char)
  | a :: b :: c :: d :: cs => some (Text.ofHex [a, b, c, d], cs)
  | _ => none

theorem readUnit_hexPadded {n : Nat} (hn : n < 0x10000) (cs : List Char) :
    readUnit ((Text.hexPadded 4 n).toList ++ cs) = some (n, cs) := by
  have hread := Text.ofHex_hexPadded 4 n
  obtain ⟨a, b, c, d, hdigits⟩ : ∃ a b c d, (Text.hexPadded 4 n).toList = [a, b, c, d] := by
    have hlength := Text.length_hexPadded (by decide : 0 < 4) hn
    match (Text.hexPadded 4 n).toList, hlength with
    | [a, b, c, d], _ => exact ⟨a, b, c, d, rfl⟩
  rw [hdigits] at hread
  rw [hdigits, ← hread]
  rfl

/-- The character that is written by its units. A high surrogate has the low one behind it, with a `\u` of its own. -/
def readUnits (cs : List Char) : Option (Char × List Char) :=
  match readUnit cs with
  | none => none
  | some (high, cs) =>
    if 0xD800 ≤ high ∧ high < 0xDC00 then
      match readUnit (cs.drop 2) with
      | none => none
      | some (low, cs) => some (Char.ofNat (0x10000 + (high - 0xD800) * 0x400 + (low - 0xDC00)), cs)
    else some (Char.ofNat high, cs)

/-- The character that a letter behind a backslash stands for. -/
def unescaped (c : Char) : Char :=
  if c = 'n' then '\n'
  else if c = 'r' then '\r'
  else if c = 't' then '\t'
  else if c = 'b' then Char.ofNat 0x08
  else if c = 'f' then Char.ofNat 0x0C
  else c

/-- A character in front, as it stands between quotes, and what stands behind it. -/
def readChar : List Char → Option (Char × List Char)
  | [] => none
  | c :: cs =>
    if c ≠ '\\' then some (c, cs)
    else
      match cs with
      | [] => none
      | d :: cs => if d = 'u' then readUnits cs else some (unescaped d, cs)

theorem readChar_self {c : Char} (h : c ≠ '\\') (cs : List Char) : readChar (c :: cs) = some (c, cs) := if_pos h

theorem readChar_short {d : Char} (h : d ≠ 'u') (cs : List Char) :
    readChar ('\\' :: d :: cs) = some (unescaped d, cs) := by
  rw [readChar, if_neg (by decide)]
  exact if_neg h

theorem readChar_unit (n : Nat) (cs : List Char) :
    readChar (unit n ++ cs) = readUnits ((Text.hexPadded 4 n).toList ++ cs) := by
  rw [unit, List.cons_append, List.cons_append, readChar, if_neg (by decide)]
  exact if_pos rfl

theorem readUnits_of_plane {c : Char} (hc : c.toNat < 0x10000) (cs : List Char) :
    readUnits ((Text.hexPadded 4 c.toNat).toList ++ cs) = some (c, cs) := by
  have hvalid : c.toNat < 0xD800 ∨ 0xDFFF < c.toNat ∧ c.toNat < 0x110000 := c.valid
  simp only [readUnits, readUnit_hexPadded hc]
  rw [if_neg (by omega), Char.ofNat_toNat]

theorem readUnits_surrogates {high low : Nat} (hhigh : 0xD800 ≤ high ∧ high < 0xDC00) (hlow : low < 0xE000)
    (cs : List Char) : readUnits ((Text.hexPadded 4 high).toList ++ (unit low ++ cs)) =
      some (Char.ofNat (0x10000 + (high - 0xD800) * 0x400 + (low - 0xDC00)), cs) := by
  have hdrop : (unit low ++ cs).drop 2 = (Text.hexPadded 4 low).toList ++ cs := rfl
  simp only [readUnits, readUnit_hexPadded (show high < 0x10000 by omega), hdrop,
    readUnit_hexPadded (show low < 0x10000 by omega), if_pos hhigh]

/-- A character beyond the first plane is put together from its surrogates. -/
theorem readUnits_of_pair {c : Char} (hc : 0x10000 ≤ c.toNat) (cs : List Char) :
    readUnits ((Text.hexPadded 4 (0xD800 + (c.toNat - 0x10000) / 0x400)).toList ++
      (unit (0xDC00 + (c.toNat - 0x10000) % 0x400) ++ cs)) = some (c, cs) := by
  have hvalid : c.toNat < 0xD800 ∨ 0xDFFF < c.toNat ∧ c.toNat < 0x110000 := c.valid
  have hwhole : ∀ n high low, n = c.toNat - 0x10000 → high = 0xD800 + n / 0x400 → low = 0xDC00 + n % 0x400 →
      0x10000 + (high - 0xD800) * 0x400 + (low - 0xDC00) = c.toNat := by omega
  rw [readUnits_surrogates (by omega) (by omega), hwhole _ _ _ rfl rfl rfl, Char.ofNat_toNat]

/-- What the escaped forms of a character are. -/
theorem escaped_cases (c : Char) :
    (∃ d, escaped c = ['\\', d] ∧ d ≠ 'u' ∧ unescaped d = c ∧ d.toNat < 0x80) ∨
      (escaped c = [c] ∧ c ≠ '"' ∧ c ≠ '\\' ∧ c.toNat < 0x80) ∨
      (escaped c = unit c.toNat ∧ c.toNat < 0x10000) ∨
      (escaped c = unit (0xD800 + (c.toNat - 0x10000) / 0x400) ++ unit (0xDC00 + (c.toNat - 0x10000) % 0x400) ∧
        0x10000 ≤ c.toNat) := by
  have hself : ∀ n, c.toNat = n → Char.ofNat n = c := fun n h => h ▸ Char.ofNat_toNat c
  generalize hform : escaped c = form
  rw [escaped] at hform
  split at hform
  next h => exact .inl ⟨_, hform.symm, by decide, h.symm, by decide⟩
  next hquote =>
  split at hform
  next h => exact .inl ⟨_, hform.symm, by decide, h.symm, by decide⟩
  next hbackslash =>
  split at hform
  next h => exact .inl ⟨_, hform.symm, by decide, h.symm, by decide⟩
  split at hform
  next h => exact .inl ⟨_, hform.symm, by decide, h.symm, by decide⟩
  split at hform
  next h => exact .inl ⟨_, hform.symm, by decide, h.symm, by decide⟩
  split at hform
  next h => exact .inl ⟨_, hform.symm, by decide, hself _ h, by decide⟩
  split at hform
  next h => exact .inl ⟨_, hform.symm, by decide, hself _ h, by decide⟩
  split at hform
  next hprinted => exact .inr (.inl ⟨hform.symm, hquote, hbackslash, by omega⟩)
  split at hform
  next hplane => exact .inr (.inr (.inl ⟨hform.symm, hplane⟩))
  next hplane => exact .inr (.inr (.inr ⟨hform.symm, Nat.le_of_not_lt hplane⟩))

/-- An escaped character is read back, whatever stands behind it. -/
theorem readChar_escaped (c : Char) (cs : List Char) : readChar (escaped c ++ cs) = some (c, cs) := by
  obtain ⟨d, h, hd, rfl, -⟩ | ⟨h, -, hc, -⟩ | ⟨h, hplane⟩ | ⟨h, hplane⟩ := escaped_cases c <;> rw [h]
  · exact readChar_short hd cs
  · exact readChar_self hc cs
  · rw [readChar_unit, readUnits_of_plane hplane]
  · rw [List.append_assoc, readChar_unit, readUnits_of_pair hplane]

theorem escaped_append_inj {c c' : Char} {cs cs' : List Char} (h : escaped c ++ cs = escaped c' ++ cs') :
    c = c' ∧ cs = cs' := by
  have hread := readChar_escaped c cs
  rw [h, readChar_escaped] at hread
  obtain ⟨hc, hcs⟩ := Prod.ext_iff.1 (Option.some.inj hread)
  exact ⟨hc.symm, hcs.symm⟩

/-- No quote stands where a character begins. -/
theorem head?_escaped (c : Char) : ∃ d rest, escaped c = d :: rest ∧ d ≠ '"' := by
  obtain ⟨d, h, -⟩ | ⟨h, hc, -⟩ | ⟨h, -⟩ | ⟨h, -⟩ := escaped_cases c <;> rw [h]
  · exact ⟨_, _, rfl, by decide⟩
  · exact ⟨c, [], rfl, hc⟩
  · exact ⟨_, _, rfl, by decide⟩
  · exact ⟨_, _, rfl, by decide⟩

/-! ## Texts -/

theorem flatMap_escaped_inj {cs cs' rest rest' : List Char}
    (h : cs.flatMap escaped ++ '"' :: rest = cs'.flatMap escaped ++ '"' :: rest') : cs = cs' ∧ rest = rest' := by
  induction cs generalizing cs' with
  | nil =>
    cases cs' with
    | nil => exact ⟨rfl, (List.cons.inj h).2⟩
    | cons c' cs' =>
      obtain ⟨d, front, hfront, hd⟩ := head?_escaped c'
      rw [List.flatMap_cons, hfront] at h
      exact absurd (List.cons.inj h).1.symm hd
  | cons c cs ih =>
    cases cs' with
    | nil =>
      obtain ⟨d, front, hfront, hd⟩ := head?_escaped c
      rw [List.flatMap_cons, hfront] at h
      exact absurd (List.cons.inj h).1 hd
    | cons c' cs' =>
      rw [List.flatMap_cons, List.flatMap_cons, List.append_assoc, List.append_assoc] at h
      obtain ⟨rfl, hrest⟩ := escaped_append_inj h
      obtain ⟨rfl, rfl⟩ := ih hrest
      exact ⟨rfl, rfl⟩

theorem toList_text (s : String) : (text s).toList = '"' :: (s.toList.flatMap escaped ++ ['"']) :=
  String.toList_ofList

/-- A text between quotes is told from what stands behind it. -/
theorem text_append_inj {s s' : String} {rest rest' : List Char}
    (h : (text s).toList ++ rest = (text s').toList ++ rest') : s = s' ∧ rest = rest' := by
  rw [toList_text, toList_text, List.cons_append, List.cons_append, List.append_assoc, List.append_assoc,
    List.singleton_append, List.singleton_append] at h
  obtain ⟨hs, hrest⟩ := flatMap_escaped_inj (List.cons.inj h).2
  exact ⟨String.toList_inj.1 hs, hrest⟩

/-- No text is mistaken for the missing one. -/
theorem value_append_inj {v v' : Option String} {rest rest' : List Char}
    (h : ((v.map text).getD "null").toList ++ rest = ((v'.map text).getD "null").toList ++ rest') :
    v = v' ∧ rest = rest' := by
  have hnull : "null".toList = ['n', 'u', 'l', 'l'] := rfl
  cases v with
  | none =>
    cases v' with
    | none => exact ⟨rfl, List.append_cancel_left h⟩
    | some s' =>
      simp only [Option.map_none, Option.map_some, Option.getD_none, Option.getD_some, hnull, toList_text] at h
      cases (List.cons.inj h).1
  | some s =>
    cases v' with
    | none =>
      simp only [Option.map_none, Option.map_some, Option.getD_none, Option.getD_some, hnull, toList_text] at h
      cases (List.cons.inj h).1
    | some s' =>
      obtain ⟨rfl, rfl⟩ := text_append_inj h
      exact ⟨rfl, rfl⟩

/-! ## Objects -/

/-- A field on its line. -/
def line (f : String × Option String) : List Char :=
  ' ' :: ' ' :: ((text f.1).toList ++ (':' :: ' ' :: ((f.2.map text).getD "null").toList))

theorem line_append_inj {f f' : String × Option String} {rest rest' : List Char}
    (h : line f ++ rest = line f' ++ rest') : f = f' ∧ rest = rest' := by
  simp only [line, List.cons_append, List.append_assoc, List.cons.injEq, true_and] at h
  obtain ⟨hkey, h⟩ := text_append_inj h
  simp only [List.cons.injEq, true_and] at h
  obtain ⟨hvalue, hrest⟩ := value_append_inj h
  exact ⟨Prod.ext hkey hvalue, hrest⟩

/-- What stands behind a field: the other ones, and the closing bracket. -/
def ending : List (String × Option String) → List Char
  | [] => ['\n', '\x7d']
  | f :: fields => ',' :: '\n' :: (line f ++ ending fields)

theorem ending_inj {fields fields' : List (String × Option String)} (h : ending fields = ending fields') :
    fields = fields' := by
  induction fields generalizing fields' with
  | nil =>
    cases fields' with
    | nil => rfl
    | cons f' fields' => cases (List.cons.inj h).1
  | cons f fields ih =>
    cases fields' with
    | nil => cases (List.cons.inj h).1
    | cons f' fields' =>
      simp only [ending, List.cons.injEq, true_and] at h
      obtain ⟨rfl, hrest⟩ := line_append_inj h
      rw [ih hrest]

theorem toList_object_cons (f : String × Option String) (fields : List (String × Option String)) :
    (object (f :: fields)).toList = '\x7b' :: '\n' :: (line f ++ ending fields) := by
  have hline : (String.toList ∘ fun f : String × Option String =>
      "  " ++ text f.1 ++ ": " ++ (f.2.map text).getD "null") = line := by
    funext f
    simp [line]
  have hbody : ∀ (f : String × Option String) (fields : List (String × Option String)),
      [',', '\n'].intercalate ((f :: fields).map line) ++ ['\n', '\x7d'] = line f ++ ending fields := by
    intro f fields
    induction fields generalizing f with
    | nil => simp [ending]
    | cons f' fields ih =>
      rw [List.map_cons, List.map_cons, List.intercalate_cons_cons, ← List.map_cons, List.append_assoc, List.append_assoc,
        ih f', ending]
      rfl
  rw [← hbody, ← hline, object, String.toList_append, String.toList_append, String.toList_intercalate, List.map_map]
  rfl

theorem toList_object_nil : (object []).toList = ['\x7b', '\n', '\n', '\x7d'] := rfl

/-- **Objects written the same have the same fields.** No key, no text and no missing one can be mistaken for another, and
none reaches into the next field. -/
theorem object_inj {fields fields' : List (String × Option String)} (h : object fields = object fields') :
    fields = fields' := by
  rw [← String.toList_inj] at h
  cases fields with
  | nil =>
    cases fields' with
    | nil => rfl
    | cons f' fields' =>
      rw [toList_object_nil, toList_object_cons, line] at h
      cases h
  | cons f fields =>
    cases fields' with
    | nil =>
      rw [toList_object_nil, toList_object_cons, line] at h
      cases h
    | cons f' fields' =>
      simp only [toList_object_cons, List.cons.injEq, true_and] at h
      obtain ⟨rfl, hrest⟩ := line_append_inj h
      rw [ending_inj hrest]

/-! ## ASCII -/

/-- No character beyond ASCII. -/
def Ascii (cs : List Char) : Prop := ∀ c ∈ cs, c.toNat < 0x80

instance (cs : List Char) : Decidable (Ascii cs) := List.decidableBAll (fun c : Char => c.toNat < 0x80) cs

theorem Ascii.append {cs ds : List Char} (hcs : Ascii cs) (hds : Ascii ds) : Ascii (cs ++ ds) :=
  List.forall_mem_append.2 ⟨hcs, hds⟩

theorem Ascii.cons {c : Char} {cs : List Char} (hc : c.toNat < 0x80) (hcs : Ascii cs) : Ascii (c :: cs) :=
  List.forall_mem_cons.2 ⟨hc, hcs⟩

theorem ascii_unit (n : Nat) : Ascii (unit n) := by
  refine .cons (by decide) (.cons (by decide) fun c hc => ?_)
  obtain ⟨d, rfl⟩ := Text.mem_hexPadded hc
  exact Text.digitChar_cases (P := fun c => c.toNat < 0x80) (by decide) (by decide) d

theorem ascii_escaped (c : Char) : Ascii (escaped c) := by
  obtain ⟨d, h, -, -, hd⟩ | ⟨h, -, -, hc⟩ | ⟨h, -⟩ | ⟨h, -⟩ := escaped_cases c <;> rw [h]
  · exact .cons (by decide) (.cons hd (List.forall_mem_nil _))
  · exact .cons hc (List.forall_mem_nil _)
  · exact ascii_unit _
  · exact (ascii_unit _).append (ascii_unit _)

theorem ascii_text (s : String) : Ascii (text s).toList := by
  rw [toList_text]
  refine .cons (by decide) (.append (fun c hc => ?_) (.cons (by decide) (List.forall_mem_nil _)))
  obtain ⟨d, -, hd⟩ := List.mem_flatMap.1 hc
  exact ascii_escaped d c hd

theorem ascii_line (f : String × Option String) : Ascii (line f) := by
  have hvalue : Ascii ((f.2.map text).getD "null").toList := by
    cases f.2 with
    | none => exact show Ascii ['n', 'u', 'l', 'l'] by decide
    | some s => exact ascii_text s
  exact .cons (by decide) (.cons (by decide) ((ascii_text f.1).append (.cons (by decide) (.cons (by decide) hvalue))))

theorem ascii_ending (fields : List (String × Option String)) : Ascii (ending fields) := by
  induction fields with
  | nil => exact show Ascii ['\n', '\x7d'] by decide
  | cons f fields ih => exact .cons (by decide) (.cons (by decide) ((ascii_line f).append ih))

/-- Whatever is in the fields, the object is written in ASCII. -/
theorem ascii_object (fields : List (String × Option String)) : Ascii (object fields).toList := by
  cases fields with
  | nil =>
    rw [toList_object_nil]
    decide
  | cons f fields =>
    rw [toList_object_cons]
    exact .cons (by decide) (.cons (by decide) ((ascii_line f).append (ascii_ending fields)))

/-! ## Version information -/

theorem text_mode_inj {m m' : Mode} (h : m.text = m'.text) : m = m' := by
  have hread := Mode.ofText_text m
  rw [h, Mode.ofText_text] at hread
  exact (Except.ok.inj hread).symm

/-- Version information is told by its JSON. -/
theorem ofInfo_inj {info info' : VersionInfo} (h : ofInfo info = ofInfo info') : info = info' := by
  have hfields := object_inj h
  obtain ⟨baseVersion, suffix, mode, revision, displayVersion, branch⟩ := info
  obtain ⟨baseVersion', suffix', mode', revision', displayVersion', branch'⟩ := info'
  simp only [fieldsOf, List.cons.injEq, Prod.mk.injEq, true_and, and_true, Option.some.injEq] at hfields
  obtain ⟨rfl, rfl, hmode, rfl, rfl, rfl⟩ := hfields
  obtain rfl := text_mode_inj hmode
  rfl

theorem ascii_ofInfo (info : VersionInfo) : Ascii (ofInfo info).toList := ascii_object (fieldsOf info)

end VersionStamp.Json
