/-
Text that the console shows as it is written.

`layout_eq_self_iff`: what is shown is the text itself exactly if the text is
`Literal`: no `[` in it starts a tag or has a backslash in front, and neither a
tab nor a character that moves the cursor stands in it.
-/
import Mathlib.Data.List.Basic
import VersionStamp.Proofs.ShownText

namespace VersionStamp

/-! ## Markup -/

namespace Markup

/-- The characters begin with a tag. -/
def StartsTag (cs : List Char) : Prop :=
  ∃ c body rest, cs = '[' :: c :: (body ++ ']' :: rest) ∧ startsTag c = true ∧ '[' ∉ body ∧ ']' ∉ body

/-- Nothing in the characters is taken for markup: where a `[` stands, no tag starts and no
backslash stands before it. -/
def Free (cs : List Char) : Prop :=
  ∀ front back, cs = front ++ '[' :: back → ¬StartsTag ('[' :: back) ∧ front.getLast? ≠ some '\\'

theorem upToClose_eq_some_iff {cs body : List Char} :
    upToClose cs = some body ↔ ∃ rest, cs = body ++ ']' :: rest ∧ '[' ∉ body ∧ ']' ∉ body := by
  constructor
  · intro h
    induction cs generalizing body with
    | nil => cases h
    | cons c cs ih =>
      rw [upToClose] at h
      split at h
      next hc =>
        cases h
        exact ⟨cs, by rw [hc]; rfl, by simp, by simp⟩
      next hc =>
        split at h
        next => cases h
        next hopen =>
          obtain ⟨tail, htail, rfl⟩ := Option.map_eq_some_iff.1 h
          obtain ⟨rest, rfl, hno, hno'⟩ := ih htail
          exact ⟨rest, rfl, by simp [Ne.symm hopen, hno], by simp [Ne.symm hc, hno']⟩
  · rintro ⟨rest, rfl, hopen, hclose⟩
    exact upToClose_append hopen hclose rest

theorem body?_eq_some_iff {cs written : List Char} :
    body? cs = some written ↔ ∃ c body rest, cs = c :: (body ++ ']' :: rest) ∧ startsTag c = true ∧
      '[' ∉ body ∧ ']' ∉ body ∧ written = c :: body := by
  constructor
  · intro h
    cases cs with
    | nil => cases h
    | cons c cs =>
      rw [body?] at h
      split at h
      next hc =>
        obtain ⟨body, hbody, rfl⟩ := Option.map_eq_some_iff.1 h
        obtain ⟨rest, rfl, hopen, hclose⟩ := upToClose_eq_some_iff.1 hbody
        exact ⟨c, body, rest, rfl, hc, hopen, hclose, rfl⟩
      next => cases h
  · rintro ⟨c, body, rest, rfl, hc, hopen, hclose, rfl⟩
    rw [body?, if_pos hc, upToClose_append hopen hclose]
    rfl

theorem startsTag_iff {cs : List Char} : StartsTag ('[' :: cs) ↔ ∃ written, body? cs = some written := by
  simp only [body?_eq_some_iff, StartsTag, List.cons.injEq, true_and]
  constructor
  · rintro ⟨c, body, rest, hcs, hc, hopen, hclose⟩
    exact ⟨_, c, body, rest, hcs, hc, hopen, hclose, rfl⟩
  · rintro ⟨_, c, body, rest, hcs, hc, hopen, hclose, -⟩
    exact ⟨c, body, rest, hcs, hc, hopen, hclose⟩

theorem free_nil : Free [] := by
  intro front back h
  simp at h

theorem free_cons_of_ne {c : Char} (hc : c ≠ '[') {cs : List Char} :
    Free (c :: cs) ↔ Free cs ∧ (c = '\\' → cs.head? ≠ some '[') := by
  constructor
  · intro h
    refine ⟨fun front back he => ?_, fun hslash hhead => ?_⟩
    · obtain ⟨htag, hlast⟩ := h (c :: front) back (by rw [he]; rfl)
      refine ⟨htag, fun hf => hlast ?_⟩
      rw [List.getLast?_cons, hf]
      rfl
    · obtain ⟨back, rfl⟩ := List.head?_eq_some_iff.1 hhead
      exact (h [c] back rfl).2 (by rw [hslash]; rfl)
  · rintro ⟨h, hhead⟩ front back he
    cases front with
    | nil =>
      obtain ⟨rfl, -⟩ : c = '[' ∧ cs = back := by simpa using he
      exact absurd rfl hc
    | cons d front =>
      obtain ⟨rfl, rfl⟩ : c = d ∧ cs = front ++ '[' :: back := by simpa using he
      obtain ⟨htag, hlast⟩ := h front back rfl
      refine ⟨htag, fun hf => ?_⟩
      cases front with
      | nil => exact hhead (by simpa using hf) rfl
      | cons e front => exact hlast (by simpa using hf)

theorem free_bracket_iff {cs : List Char} : Free ('[' :: cs) ↔ body? cs = none ∧ Free cs := by
  have hbody : body? cs = none ↔ ¬StartsTag ('[' :: cs) := by
    rw [startsTag_iff, not_exists, Option.eq_none_iff_forall_ne_some]
  rw [hbody]
  constructor
  · intro h
    refine ⟨(h [] cs rfl).1, fun front back he => ?_⟩
    obtain ⟨htag, hlast⟩ := h ('[' :: front) back (by rw [he]; rfl)
    refine ⟨htag, fun hf => hlast ?_⟩
    rw [List.getLast?_cons, hf]
    rfl
  · rintro ⟨htag, h⟩ front back he
    cases front with
    | nil =>
      obtain rfl : cs = back := by simpa using he
      exact ⟨htag, by simp⟩
    | cons d front =>
      obtain ⟨rfl, rfl⟩ : '[' = d ∧ cs = front ++ '[' :: back := by simpa using he
      obtain ⟨htag, hlast⟩ := h front back rfl
      refine ⟨htag, fun hf => ?_⟩
      cases front with
      | nil => simp at hf
      | cons e front => exact hlast (by simpa using hf)

/-! ## What the tokens print -/

/-- What stands outside the tags. -/
def plainText (ts : List Token) : List Char :=
  ts.flatMap fun
    | .plain text => text
    | _ => []

@[simp] theorem plainText_nil : plainText [] = [] := rfl

@[simp] theorem plainText_plain (text : List Char) (ts : List Token) :
    plainText (.plain text :: ts) = text ++ plainText ts := rfl

@[simp] theorem plainText_backslashes (n : Nat) (ts : List Token) :
    plainText (backslashes n :: ts) = List.replicate n '\\' ++ plainText ts := rfl

theorem plainText_tag (written : List Char) (position : Nat) (ts : List Token) :
    plainText (tag written position :: ts) = plainText ts := by
  unfold tag
  split <;> rfl

theorem map_eq_ok_iff {ε α β : Type} {x : Except ε α} {f : α → β} {b : β} :
    x.map f = .ok b ↔ ∃ a, x = .ok a ∧ f a = b := by
  cases x <;> simp [Except.map]

/-- Printing loses the tags and the characters that move the cursor. -/
theorem text_of_print {stack : List OpenTag} {position : Nat} {ts : List Token} {p : Printed}
    (h : print stack position ts = .ok p) : p.text = (plainText ts).filter fun c => !Console.isSilent c := by
  induction ts generalizing stack position p with
  | nil =>
    cases h
    rfl
  | cons t ts ih =>
    cases t with
    | plain text =>
      simp only [print] at h
      obtain ⟨q, hq, rfl⟩ := map_eq_ok_iff.1 h
      rw [plainText_plain, List.filter_append, ← ih hq]
    | opening name parameters =>
      simp only [print] at h
      split at h
      · cases h
      · exact ih h
    | closing name written place =>
      simp only [print] at h
      split at h
      · split at h
        · cases h
        · obtain ⟨q, hq, rfl⟩ := map_eq_ok_iff.1 h
          show q.text = _
          exact ih hq
      · split at h
        · cases h
        · split at h
          · cases h
          · obtain ⟨q, hq, rfl⟩ := map_eq_ok_iff.1 h
            show q.text = _
            exact ih hq

theorem length_of_body? {cs written : List Char} (h : body? cs = some written) : written.length + 1 ≤ cs.length := by
  obtain ⟨c, body, rest, rfl, -, -, -, rfl⟩ := body?_eq_some_iff.1 h
  simp only [List.length_cons, List.length_append]
  omega

/-- A tag with the backslashes in front of it prints less than is written. -/
theorem length_plainText_tag_lt (run position : Nat) (written : List Char) (ts : List Token) :
    run / 2 + (plainText ((if run % 2 = 1 then .plain ('[' :: written ++ [']']) else tag written position) :: ts)).length
      < run + (written.length + 2) + (plainText ts).length := by
  split
  next hodd =>
    rw [plainText_plain]
    simp only [List.length_append, List.length_cons, List.length_nil]
    omega
  next =>
    rw [plainText_tag]
    omega

/-- Cutting adds nothing. `run` backslashes were passed already, and `skip` characters are spent. -/
theorem length_plainText_cut_le (skip run position : Nat) (cs : List Char) :
    (plainText (cut skip run position cs)).length ≤ run + (cs.length - skip) := by
  fun_induction cut skip run position cs with
  | case1 => simp
  | case2 run position c cs skip ih =>
    simp only [List.length_cons]
    omega
  | case3 run position cs ih =>
    simp only [List.length_cons]
    omega
  | case4 run position cs _ _ ih =>
    simp only [plainText_backslashes, plainText_plain, List.length_append, List.length_replicate, List.length_cons,
      List.length_nil]
    omega
  | case5 run position cs written hbody token _ ih =>
    have htag : run / 2 + (plainText (token :: cut (written.length + 1) 0 (position + run + 1) cs)).length < _ :=
      length_plainText_tag_lt run (position + run / 2 * 2) written _
    have hwritten := length_of_body? hbody
    rw [plainText_backslashes, List.length_append, List.length_replicate, List.length_cons]
    omega
  | case6 run position c cs _ _ ih =>
    simp only [plainText_backslashes, plainText_plain, List.length_append, List.length_replicate, List.length_cons,
      List.length_nil]
    omega

/-- Cutting leaves characters as they are exactly if nothing in them is taken for markup. -/
theorem plainText_cut_eq_iff (run position : Nat) (cs : List Char) :
    plainText (cut 0 run position cs) = List.replicate run '\\' ++ cs ↔
      Free cs ∧ (0 < run → cs.head? ≠ some '[') := by
  generalize hskip : 0 = skip
  fun_induction cut skip run position cs with
  | case1 => simp [free_nil]
  | case2 => cases hskip
  | case3 run position cs ih =>
    rw [free_cons_of_ne (by decide)]
    simpa [List.replicate_succ'] using ih rfl
  | case4 run position cs hbody _ ih =>
    rw [free_bracket_iff, plainText_backslashes, plainText_plain]
    cases run with
    | zero => simpa [hbody] using ih rfl
    | succ run =>
      -- the backslash in front is lost
      refine iff_of_false (fun h => ?_) (by simp)
      have hle := length_plainText_cut_le 0 0 (position + (run + 1) + 1) cs
      have hlen := congrArg List.length h
      simp only [List.length_append, List.length_replicate, List.length_cons, List.length_nil] at hlen
      omega
  | case5 run position cs written hbody token _ ih =>
    have htag : run / 2 + (plainText (token :: cut (written.length + 1) 0 (position + run + 1) cs)).length < _ :=
      length_plainText_tag_lt run (position + run / 2 * 2) written _
    have hle := length_plainText_cut_le (written.length + 1) 0 (position + run + 1) cs
    have hwritten := length_of_body? hbody
    rw [free_bracket_iff, plainText_backslashes]
    refine iff_of_false (fun h => ?_) (by simp [hbody])
    have hlen := congrArg List.length h
    simp only [List.length_append, List.length_replicate, List.length_cons] at hlen
    omega
  | case6 run position c cs hslash hbracket ih =>
    rw [free_cons_of_ne hbracket, plainText_backslashes, plainText_plain]
    simpa [hslash, hbracket] using ih rfl

theorem plainText_tokens_eq_iff {cs : List Char} : plainText (tokens cs) = cs ↔ Free cs := by
  simpa [tokens] using plainText_cut_eq_iff 0 0 cs

theorem length_plainText_tokens_le (cs : List Char) : (plainText (tokens cs)).length ≤ cs.length := by
  simpa [tokens] using length_plainText_cut_le 0 0 0 cs

theorem cut_plain_of_free {cs : List Char} (h : Free cs) (run position : Nat) :
    ∀ t ∈ cut 0 run position cs, ∃ text, t = .plain text := by
  generalize hskip : 0 = skip
  fun_induction cut skip run position cs with
  | case1 => simp [backslashes]
  | case2 => cases hskip
  | case3 run position cs ih => exact ih ((free_cons_of_ne (by decide)).1 h).1 rfl
  | case4 run position cs _ _ ih =>
    simp only [backslashes, List.mem_cons, forall_eq_or_imp, Token.plain.injEq, exists_eq', true_and]
    exact ih (free_bracket_iff.1 h).2 rfl
  | case5 run position cs written hbody =>
    cases hbody.symm.trans (free_bracket_iff.1 h).1
  | case6 run position c cs _ hbracket ih =>
    simp only [backslashes, List.mem_cons, forall_eq_or_imp, Token.plain.injEq, exists_eq', true_and]
    exact ih ((free_cons_of_ne hbracket).1 h).1 rfl

/-- What is printed stands in the text, backslashes apart. -/
theorem mem_plainText_cut {skip run position : Nat} {cs : List Char} {c : Char}
    (h : c ∈ plainText (cut skip run position cs)) : c = '\\' ∨ c ∈ cs := by
  fun_induction cut skip run position cs with
  | case1 => exact .inl (List.mem_replicate.1 (by simpa using h)).2
  | case2 run position d cs skip ih => exact (ih h).imp_right (List.mem_cons_of_mem _)
  | case3 run position cs ih => exact (ih h).imp_right (List.mem_cons_of_mem _)
  | case4 run position cs _ _ ih =>
    simp only [plainText_backslashes, plainText_plain, List.mem_append, List.mem_singleton] at h
    rcases h with h | h | h
    · exact .inl (List.mem_replicate.1 h).2
    · exact .inr (by simp [h])
    · exact (ih h).imp_right (List.mem_cons_of_mem _)
  | case5 run position cs written hbody token _ ih =>
    obtain ⟨d, body, rest, rfl, -, -, -, rfl⟩ := body?_eq_some_iff.1 hbody
    rw [plainText_backslashes, List.mem_append] at h
    rcases h with h | h
    · exact .inl (List.mem_replicate.1 h).2
    · simp only [token] at h
      split at h
      · rw [plainText_plain, List.mem_append] at h
        rcases h with h | h
        · refine .inr ?_
          simp at h ⊢
          tauto
        · exact (ih h).imp_right (List.mem_cons_of_mem _)
      · rw [plainText_tag] at h
        exact (ih h).imp_right (List.mem_cons_of_mem _)
  | case6 run position d cs _ _ ih =>
    simp only [plainText_backslashes, plainText_plain, List.mem_append, List.mem_singleton] at h
    rcases h with h | h | h
    · exact .inl (List.mem_replicate.1 h).2
    · exact .inr (by simp [h])
    · exact (ih h).imp_right (List.mem_cons_of_mem _)

end Markup

/-! ## Tabs -/

namespace Console

open Text.Chars (split)

theorem mem_fill {stretch : List Char} {c : Char} (h : c ∈ fill stretch) : c = ' ' ∨ c ∈ stretch := by
  rcases List.mem_append.1 h with h | h
  · exact .inr h
  · exact .inl (List.mem_replicate.1 h).2

theorem mem_joinStretches {ls : List (List Char)} {c : Char} (h : c ∈ joinStretches ls) :
    c = ' ' ∨ ∃ l ∈ ls, c ∈ l := by
  fun_induction joinStretches ls with
  | case1 => cases h
  | case2 l => exact .inr ⟨l, List.mem_cons_self, h⟩
  | case3 l ls _ ih =>
    rcases List.mem_append.1 h with h | h
    · exact (mem_fill h).imp_right fun h => ⟨l, List.mem_cons_self, h⟩
    · exact (ih h).imp_right fun ⟨l', hl', hc⟩ => ⟨l', List.mem_cons_of_mem _ hl', hc⟩

theorem mem_intercalate {separator c : Char} {ls : List (List Char)} (h : c ∈ [separator].intercalate ls) :
    c = separator ∨ ∃ l ∈ ls, c ∈ l := by
  induction ls with
  | nil => cases h
  | cons l ls ih =>
    by_cases hls : ls = []
    · subst hls
      rw [List.intercalate_singleton] at h
      exact .inr ⟨l, List.mem_cons_self, h⟩
    · rw [List.intercalate_cons_of_ne_nil hls, List.append_assoc, List.mem_append, List.mem_append,
        List.mem_singleton] at h
      rcases h with h | h | h
      · exact .inr ⟨l, List.mem_cons_self, h⟩
      · exact .inl h
      · exact (ih h).imp_right fun ⟨l', hl', hc⟩ => ⟨l', List.mem_cons_of_mem _ hl', hc⟩

/-- Blanks are all that tabs leave. -/
theorem mem_expandTabs {cs : List Char} {c : Char} (h : c ∈ expandTabs cs) : c = ' ' ∨ c ∈ cs ∧ c ≠ '\t' := by
  have hline : ∀ line, c ∈ joinStretches (split '\t' line) → c = ' ' ∨ c ∈ line ∧ c ≠ '\t' := fun line hc =>
    (mem_joinStretches hc).imp_right fun ⟨_, hl, hc⟩ => Text.Chars.mem_of_mem_split hl hc
  unfold expandTabs at h
  by_cases hbreak : '\n' ∈ cs
  · rcases mem_intercalate h with rfl | ⟨l, hl, hc⟩
    · exact .inr ⟨hbreak, by decide⟩
    · obtain ⟨line, hmem, rfl⟩ := List.mem_map.1 hl
      exact (hline line hc).imp_right (And.imp_left fun hc => (Text.Chars.mem_of_mem_split hmem hc).1)
  · rw [Text.Chars.split_of_not_mem hbreak, List.map_singleton, List.intercalate_singleton] at h
    exact hline cs h

theorem expandTabs_of_not_mem {cs : List Char} (h : '\t' ∉ cs) : expandTabs cs = cs := by
  have hlines : ∀ line ∈ split '\n' cs, joinStretches (split '\t' line) = line := by
    intro line hline
    rw [Text.Chars.split_of_not_mem fun htab => h (Text.Chars.mem_of_mem_split hline htab).1]
    rfl
  rw [expandTabs, List.map_congr_left hlines, List.map_id', Text.Chars.intercalate_split]

/-! ## Literal text -/

/-- Text in which the console has nothing to interpret. -/
structure Literal (text : String) : Prop where
  /-- Where a `[` stands, no tag starts and no backslash stands before it. -/
  markup : Markup.Free text.toList
  noTab : '\t' ∉ text.toList
  /-- No character moves the cursor. -/
  audible : ∀ c ∈ text.toList, isSilent c = false

theorem layout_of_literal {text : String} (h : Literal text) : layout text = .ok text := by
  obtain ⟨printed, hrender⟩ : ∃ printed, Markup.render text.toList = .ok ⟨printed, []⟩ :=
    Markup.print_plain (Markup.cut_plain_of_free h.markup 0 0) 0
  have hprinted : printed = text.toList := by
    rw [show printed = _ from Markup.text_of_print hrender, Markup.plainText_tokens_eq_iff.2 h.markup,
      List.filter_eq_self]
    simpa using h.audible
  rw [layout_of_render_ok hrender, hprinted, expandTabs_of_not_mem h.noTab, String.ofList_toList]
  rfl

theorem layout_eq_ok {text shown : String} (h : layout text = .ok shown) :
    ∃ p, Markup.render text.toList = .ok p ∧ shown = String.ofList (expandTabs p.text) := by
  cases hrender : Markup.render text.toList with
  | error cause =>
    rw [layout_of_render_error hrender] at h
    cases h
  | ok p =>
    rw [layout_of_render_ok hrender] at h
    split at h
    · cases h
    · cases h
      exact ⟨p, rfl, rfl⟩

/-- What is printed stands in the text, backslashes apart. -/
theorem mem_text_of_render {cs : List Char} {p : Markup.Printed} (h : Markup.render cs = .ok p) {c : Char}
    (hc : c ∈ p.text) : c = '\\' ∨ c ∈ cs := by
  rw [Markup.text_of_print h] at hc
  exact Markup.mem_plainText_cut (List.mem_filter.1 hc).1

/-- **The console shows a text as it is written exactly if there is nothing in it to interpret.** -/
theorem layout_eq_self_iff {text : String} : layout text = .ok text ↔ Literal text := by
  refine ⟨fun h => ?_, layout_of_literal⟩
  obtain ⟨p, hrender, hshown⟩ := layout_eq_ok h
  have hshown : text.toList = expandTabs p.text := by rw [hshown, String.toList_ofList]
  have htab : '\t' ∉ text.toList := by
    intro hmem
    rw [hshown] at hmem
    rcases mem_expandTabs hmem with hblank | ⟨-, hne⟩
    · exact absurd hblank (by decide)
    · exact hne rfl
  have htab' : '\t' ∉ p.text := fun hmem =>
    (mem_text_of_render hrender hmem).elim (fun h => absurd h (by decide)) htab
  rw [expandTabs_of_not_mem htab', Markup.text_of_print hrender] at hshown
  have hle := Markup.length_plainText_tokens_le text.toList
  -- nothing was lost, so nothing was taken for markup and no character was silent
  have hsub : (Markup.plainText (Markup.tokens text.toList)).filter (fun c => !isSilent c) =
      Markup.plainText (Markup.tokens text.toList) :=
    List.filter_sublist.eq_of_length (Nat.le_antisymm (List.length_filter_le _ _) (hshown ▸ hle))
  rw [hsub] at hshown
  refine ⟨Markup.plainText_tokens_eq_iff.1 hshown.symm, htab, ?_⟩
  rw [← hshown, List.filter_eq_self] at hsub
  simpa using hsub

/-- What is shown breaks into lines only where the text does. -/
theorem not_mem_newline_of_layout {text shown : String} (h : layout text = .ok shown) (hline : '\n' ∉ text.toList) :
    '\n' ∉ shown.toList := by
  obtain ⟨p, hrender, rfl⟩ := layout_eq_ok h
  rw [String.toList_ofList]
  intro hmem
  rcases mem_expandTabs hmem with hblank | ⟨hprinted, -⟩
  · exact absurd hblank (by decide)
  · rcases mem_text_of_render hrender hprinted with hslash | htext
    · exact absurd hslash (by decide)
    · exact hline htext

/-- Plain words in front do not matter. -/
theorem literal_append_iff {front : String} (hfront : ∀ c ∈ front.toList, c ≠ '[' ∧ c ≠ '\\' ∧ c ≠ '\t' ∧ isSilent c = false)
    (text : String) : Literal (front ++ text) ↔ Literal text := by
  have hmarkup : ∀ cs : List Char, (∀ c ∈ cs, c ≠ '[' ∧ c ≠ '\\' ∧ c ≠ '\t' ∧ isSilent c = false) →
      (Markup.Free (cs ++ text.toList) ↔ Markup.Free text.toList) := by
    intro cs hcs
    induction cs with
    | nil => rfl
    | cons c cs ih =>
      obtain ⟨hbracket, hslash, -⟩ := hcs c List.mem_cons_self
      rw [List.cons_append, Markup.free_cons_of_ne hbracket, ih fun c hc => hcs c (List.mem_cons_of_mem _ hc)]
      simp [hslash]
  constructor
  · rintro ⟨hm, ht, hs⟩
    rw [String.toList_append] at hm ht hs
    exact ⟨(hmarkup _ hfront).1 hm, fun h => ht (List.mem_append_right _ h),
      fun c hc => hs c (List.mem_append_right _ hc)⟩
  · rintro ⟨hm, ht, hs⟩
    refine ⟨?_, ?_, ?_⟩ <;> rw [String.toList_append]
    · exact (hmarkup _ hfront).2 hm
    · exact fun h => (List.mem_append.1 h).elim (fun h => (hfront _ h).2.2.1 rfl) ht
    · exact fun c hc => (List.mem_append.1 hc).elim (fun h => (hfront c h).2.2.2) (hs c)

end Console
end VersionStamp
