/-
Texts that the console can show.

`layout_iff`: showing fails only over markup, that is over a closing tag that
has no open tag to close, or over a number in a style that is seen. Without a
`[` there is no tag: `shown_of_no_bracket`.
-/
import Mathlib.Data.List.TakeWhile
import VersionStamp.Console.Layout

namespace VersionStamp

namespace Markup

/-- Every closing tag has an open one to close. The names in front are those of the tags that are
open already, the innermost first. -/
inductive Nested : List (List Char) → List Token → Prop
  | nil {names} : Nested names []
  | plain {names ts text} : Nested names ts → Nested names (.plain text :: ts)
  | opening {names ts name parameters normal} : normalName name = .ok normal → Nested (normal :: names) ts →
      Nested names (.opening name parameters :: ts)
  /-- `[/]` closes the tag that was opened last. -/
  | closeLast {names ts written position last} : Nested names ts →
      Nested (last :: names) (.closing [] written position :: ts)
  | close {names ts name written position normal} : name ≠ [] → normalName name = .ok normal → normal ∈ names →
      Nested (names.erase normal) ts → Nested names (.closing name written position :: ts)

theorem OpenTag.ofName_eq_ok {name : List Char} {parameters : Option (List Char)} {start : Nat} {tag : OpenTag}
    (h : OpenTag.ofName name parameters start = .ok tag) : normalName name = .ok tag.name := by
  cases hn : normalName name with
  | error e => simp [OpenTag.ofName, hn, bind, Except.bind] at h
  | ok normal =>
    rw [OpenTag.ofName, hn] at h
    cases h
    rfl

theorem OpenTag.ofName_of_normalName {name normal : List Char} (h : normalName name = .ok normal)
    (parameters : Option (List Char)) (start : Nat) :
    ∃ tag, OpenTag.ofName name parameters start = .ok tag ∧ tag.name = normal := by
  rw [OpenTag.ofName, h]
  exact ⟨_, rfl, rfl⟩

theorem close_eq_none_iff {name : List Char} {stack : List OpenTag} :
    close name stack = none ↔ name ∉ stack.map (·.name) := by
  induction stack with
  | nil => simp [close]
  | cons tag stack ih =>
    rw [close]
    split
    next h => simp [h]
    next h => simpa [Ne.symm h] using ih

theorem names_of_close {name : List Char} {stack rest : List OpenTag} {tag : OpenTag}
    (h : close name stack = some (tag, rest)) :
    rest.map (·.name) = (stack.map (·.name)).erase name := by
  induction stack generalizing rest with
  | nil => cases h
  | cons top stack ih =>
    rw [close] at h
    split at h
    next htop =>
      cases h
      rw [List.map_cons, htop, List.erase_cons_head]
    next htop =>
      obtain ⟨⟨closed, left⟩, hclose, he⟩ := Option.map_eq_some_iff.1 h
      cases he
      rw [List.map_cons, List.map_cons, List.erase_cons_tail (by simpa using htop), ih hclose]

theorem exists_map_ok_iff {ε α β : Type} {x : Except ε α} {f : α → β} : (∃ b, x.map f = .ok b) ↔ ∃ a, x = .ok a := by
  cases x <;> simp [Except.map]

theorem nested_of_print {stack : List OpenTag} {position : Nat} {ts : List Token} {p : Printed}
    (h : print stack position ts = .ok p) : Nested (stack.map (·.name)) ts := by
  induction ts generalizing stack position p with
  | nil => exact .nil
  | cons t ts ih =>
    cases t with
    | plain text =>
      obtain ⟨q, hq⟩ := exists_map_ok_iff.1 ⟨p, h⟩
      exact .plain (ih hq)
    | opening name parameters =>
      rw [print] at h
      split at h
      · cases h
      next tag htag => exact .opening (OpenTag.ofName_eq_ok htag) (ih h)
    | closing name written place =>
      simp only [print] at h
      split at h
      next hname =>
        subst hname
        cases stack with
        | nil => cases h
        | cons tag stack =>
          obtain ⟨q, hq⟩ := exists_map_ok_iff.1 ⟨p, h⟩
          exact .closeLast (ih hq)
      next hname =>
        split at h
        · cases h
        next normal hnormal =>
        split at h
        · cases h
        next tag rest hclose =>
          obtain ⟨q, hq⟩ := exists_map_ok_iff.1 ⟨p, h⟩
          have hmem : normal ∈ stack.map (·.name) := by
            by_contra hnot
            rw [close_eq_none_iff.2 hnot] at hclose
            cases hclose
          have ih := ih hq
          rw [names_of_close hclose] at ih
          exact .close hname hnormal hmem ih

theorem print_of_nested {names : List (List Char)} {ts : List Token} (h : Nested names ts) {stack : List OpenTag}
    (hstack : stack.map (·.name) = names) (position : Nat) : ∃ p, print stack position ts = .ok p := by
  induction h generalizing stack position with
  | nil => exact ⟨_, rfl⟩
  | plain _ ih => exact exists_map_ok_iff.2 (ih hstack _)
  | @opening names ts name parameters normal hname _ ih =>
    obtain ⟨tag, htag, rfl⟩ := OpenTag.ofName_of_normalName hname parameters position
    simp only [print, htag]
    exact ih (by rw [List.map_cons, hstack]) _
  | closeLast _ ih =>
    cases stack with
    | nil => cases hstack
    | cons tag stack =>
      simp only [print, if_true]
      exact exists_map_ok_iff.2 (ih (List.cons.inj hstack).2 _)
  | @close names ts name written place normal hne hname hmem _ ih =>
    simp only [print, if_neg hne, hname]
    cases hclose : close normal stack with
    | none => exact absurd (hstack ▸ hmem) (close_eq_none_iff.1 hclose)
    | some closed =>
      obtain ⟨tag, rest⟩ := closed
      exact exists_map_ok_iff.2 (ih (by rw [names_of_close hclose, hstack]) _)

/-- Tokens can be laid out exactly if the tags are nested. -/
theorem exists_print_iff (stack : List OpenTag) (position : Nat) (ts : List Token) :
    (∃ p, print stack position ts = .ok p) ↔ Nested (stack.map (·.name)) ts :=
  ⟨fun ⟨_, h⟩ => nested_of_print h, fun h => print_of_nested h rfl position⟩

theorem exists_render_iff {cs : List Char} : (∃ p, render cs = .ok p) ↔ Nested [] (tokens cs) :=
  exists_print_iff [] 0 (tokens cs)

/-! ## Without a bracket -/

theorem cut_plain {cs : List Char} (h : '[' ∉ cs) (skip run position : Nat) :
    ∀ t ∈ cut skip run position cs, ∃ text, t = .plain text := by
  fun_induction cut skip run position cs with
  | case1 _ run => simp [backslashes]
  | case2 _ _ _ _ _ ih => exact ih (List.not_mem_of_not_mem_cons h)
  | case3 _ _ _ ih => exact ih (List.not_mem_of_not_mem_cons h)
  | case4 | case5 => exact absurd List.mem_cons_self h
  | case6 _ _ _ _ _ _ ih =>
    simp only [backslashes, List.mem_cons, forall_eq_or_imp, Token.plain.injEq, exists_eq', true_and]
    exact ih (List.not_mem_of_not_mem_cons h)

/-- Plain text is printed as it is, less the characters that would move the cursor. -/
theorem print_plain {ts : List Token} (h : ∀ t ∈ ts, ∃ text, t = .plain text) (position : Nat) :
    ∃ text, print [] position ts = .ok ⟨text, []⟩ := by
  induction ts generalizing position with
  | nil => exact ⟨[], rfl⟩
  | cons t ts ih =>
    obtain ⟨text, rfl⟩ := h t List.mem_cons_self
    simp only [print]
    obtain ⟨rest, hrest⟩ := ih (fun t ht => h t (List.mem_cons_of_mem _ ht))
      (position + (text.filter fun c => !Console.isSilent c).length)
    rw [hrest]
    exact ⟨_, rfl⟩

/-! ## A closing tag with nothing to close -/

theorem cut_append {front : List Char} (hbracket : '[' ∉ front) (hbackslash : '\\' ∉ front) (position : Nat)
    (cs : List Char) :
    cut 0 0 position (front ++ cs) =
      (front.flatMap fun c => [backslashes 0, .plain [c]]) ++ cut 0 0 (position + front.length) cs := by
  induction front generalizing position with
  | nil => rfl
  | cons c front ih =>
    simp only [List.mem_cons, not_or] at hbracket hbackslash
    rw [List.cons_append, cut, if_neg (Ne.symm hbackslash.1), if_neg (Ne.symm hbracket.1),
      ih hbracket.2 hbackslash.2, List.flatMap_cons, List.length_cons]
    simp [Nat.add_comm, Nat.add_left_comm]

theorem upToClose_append {written : List Char} (hopen : '[' ∉ written) (hclose : ']' ∉ written) (cs : List Char) :
    upToClose (written ++ ']' :: cs) = some written := by
  induction written with
  | nil => rfl
  | cons c written ih =>
    simp only [List.mem_cons, not_or] at hopen hclose
    rw [List.cons_append, upToClose, if_neg (Ne.symm hclose.1), if_neg (Ne.symm hopen.1), ih hopen.2 hclose.2]
    rfl

theorem nested_append_plain {ts us : List Token} {names : List (List Char)} (h : ∀ t ∈ ts, ∃ text, t = .plain text)
    (hnested : Nested names (ts ++ us)) : Nested names us := by
  induction ts with
  | nil => exact hnested
  | cons t ts ih =>
    obtain ⟨text, rfl⟩ := h t List.mem_cons_self
    cases hnested with
    | plain hrest => exact ih (fun t ht => h t (List.mem_cons_of_mem _ ht)) hrest

theorem not_nested_closing (name written : List Char) (position : Nat) (ts : List Token) :
    ¬Nested [] (.closing name written position :: ts) := by
  intro h
  cases h with
  | close _ _ hmem _ => cases hmem

/-- A closing tag in front of every other tag has nothing to close. -/
theorem not_nested_of_closing {front name : List Char} (hbracket : '[' ∉ front) (hbackslash : '\\' ∉ front)
    (hopen : '[' ∉ name) (hclose : ']' ∉ name) (back : List Char) :
    ¬Nested [] (tokens (front ++ '[' :: '/' :: (name ++ ']' :: back))) := by
  have hbody : body? ('/' :: (name ++ ']' :: back)) = some ('/' :: name) := by
    rw [body?, if_pos (by decide), upToClose_append hopen hclose]
    rfl
  have hplain : ∀ t ∈ front.flatMap fun c => [backslashes 0, .plain [c]], ∃ text, t = .plain text := by
    intro t ht
    obtain ⟨c, -, ht⟩ := List.mem_flatMap.1 ht
    simp only [backslashes, List.mem_cons, List.not_mem_nil, or_false] at ht
    rcases ht with rfl | rfl <;> exact ⟨_, rfl⟩
  have htag (position : Nat) :
      tag ('/' :: name) position = .closing (Text.Chars.trim (name.takeWhile (· ≠ '='))) ('/' :: name) position := by
    rw [tag, List.takeWhile_cons_of_pos (by decide)]
    rfl
  intro h
  rw [tokens, cut_append hbracket hbackslash] at h
  have h := nested_append_plain hplain h
  rw [cut, if_neg (by decide), if_pos rfl, hbody] at h
  cases h with
  | plain h =>
    rw [Nat.zero_mod, if_neg Nat.zero_ne_one, htag] at h
    exact not_nested_closing _ _ _ _ h

end Markup

namespace Console

/-- Some character of the span is seen: in a text of one piece always, and else if not all of them
are ends of lines. -/
def Seen (text : List Char) (s : Markup.Span) : Prop :=
  (∀ c ∈ text, isBreak c = false) ∨ ∃ c ∈ (text.drop s.start).take (s.stop - s.start), c ≠ '\n'

/-- A text that the console can show. -/
structure Shown (text : String) : Prop where
  nested : Markup.Nested [] (Markup.tokens text.toList)
  /-- No style with a number that cannot be read is seen. -/
  numbers : ∀ p, Markup.render text.toList = .ok p → ∀ s ∈ p.spans, ¬Seen p.text s

theorem foldl_ne_none {α β : Type} {f : Option α → β → Option α} (hf : ∀ first b, f first b ≠ none) (bs : List β)
    {first : Option α} (hfirst : first ≠ none) : bs.foldl f first ≠ none := by
  induction bs generalizing first with
  | nil => exact hfirst
  | cons b bs ih => exact ih (hf first b)

theorem firstSpan?_eq_none_iff {spans : List (Nat × Markup.Span)} : firstSpan? spans = none ↔ spans = [] := by
  cases spans with
  | nil => exact iff_of_true rfl rfl
  | cons s spans =>
    -- once there is a first span, there always is one
    refine iff_of_false (foldl_ne_none (fun first t => ?_) spans (Option.some_ne_none s)) (List.cons_ne_nil s spans)
    cases first with
    | none => exact Option.some_ne_none t
    | some f =>
      dsimp only
      split <;> exact Option.some_ne_none _

theorem firstPiece?_eq_none_iff {text : List Char} {s : Markup.Span} :
    firstPiece? text s = none ↔ ∀ c ∈ (text.drop s.start).take (s.stop - s.start), c = '\n' := by
  simp only [firstPiece?]
  generalize (text.drop s.start).take (s.stop - s.start) = inside
  have hle : (inside.takeWhile (· == '\n')).length ≤ inside.length := (List.takeWhile_sublist _).length_le
  have hall : inside.takeWhile (· == '\n') = inside ↔ ∀ c ∈ inside, c = '\n' := by
    rw [List.takeWhile_eq_self_iff]
    simp only [beq_iff_eq]
  rw [← hall]
  split
  next hlt => exact iff_of_false (by simp) fun h => by rw [h] at hlt; omega
  next hnot => exact iff_of_true rfl ((List.takeWhile_sublist _).eq_of_length (by omega))

theorem firstBadNumber?_eq_none_iff {p : Markup.Printed} :
    firstBadNumber? p = none ↔ ∀ s ∈ p.spans, ¬Seen p.text s := by
  simp only [firstBadNumber?, Option.map_eq_none_iff, firstSpan?_eq_none_iff, List.filterMap_eq_nil_iff,
    List.mem_reverse]
  refine forall₂_congr fun s _ => ?_
  by_cases h : p.text.any isBreak = true
  · have hbreak : ¬∀ c ∈ p.text, isBreak c = false := by simpa using h
    simp only [h, if_true, firstPiece?_eq_none_iff, Seen, hbreak, false_or, not_exists, not_and, not_not]
  · have hbreak : ∀ c ∈ p.text, isBreak c = false := by simpa using h
    exact iff_of_false (by simp [h]) (not_not_intro (.inl hbreak))

theorem layout_of_render_error {text : String} {cause : Markup.Error}
    (h : Markup.render text.toList = .error cause) : layout text = .error (.markup cause) := by
  rw [layout, h]
  rfl

theorem layout_of_render_ok {text : String} {p : Markup.Printed} (h : Markup.render text.toList = .ok p) :
    layout text =
      match firstBadNumber? p with
      | some e => .error (.markup (.badNumber e))
      | none => .ok (String.ofList (expandTabs p.text)) := by
  rw [layout, h]
  rfl

/-- Showing a text fails only over markup. -/
theorem layout_cases (text : String) :
    (Shown text ∧ ∃ shown, layout text = .ok shown) ∨
      (¬Shown text ∧ ∃ cause, layout text = .error (.markup cause)) := by
  cases hrender : Markup.render text.toList with
  | error cause =>
    refine .inr ⟨fun h => ?_, cause, layout_of_render_error hrender⟩
    obtain ⟨p, hp⟩ := Markup.exists_render_iff.2 h.nested
    cases hrender.symm.trans hp
  | ok p =>
    rw [layout_of_render_ok hrender]
    cases hnumber : firstBadNumber? p with
    | none =>
      refine .inl ⟨⟨Markup.exists_render_iff.1 ⟨p, hrender⟩, fun q hq => ?_⟩, _, rfl⟩
      cases hrender.symm.trans hq
      exact firstBadNumber?_eq_none_iff.1 hnumber
    | some number =>
      refine .inr ⟨fun h => ?_, .badNumber number, rfl⟩
      cases hnumber.symm.trans (firstBadNumber?_eq_none_iff.2 (h.numbers p hrender))

theorem layout_eq_ok_iff {text : String} : (∃ shown, layout text = .ok shown) ↔ Shown text := by
  rcases layout_cases text with ⟨h, hok⟩ | ⟨h, cause, herror⟩
  · exact iff_of_true hok h
  · exact iff_of_false (by rintro ⟨_, hok⟩; cases herror.symm.trans hok) h

theorem shown_of_no_bracket {text : String} (h : '[' ∉ text.toList) : Shown text := by
  obtain ⟨shown, hprint⟩ := Markup.print_plain (Markup.cut_plain h 0 0 0) 0
  refine ⟨Markup.exists_render_iff.1 ⟨_, hprint⟩, fun p hp => ?_⟩
  cases hprint.symm.trans hp
  nofun

theorem not_shown_of_closing {front name : List Char} (hbracket : '[' ∉ front) (hbackslash : '\\' ∉ front)
    (hopen : '[' ∉ name) (hclose : ']' ∉ name) (back : List Char) :
    ¬Shown (String.ofList (front ++ '[' :: '/' :: (name ++ ']' :: back))) := by
  intro h
  have hnested := h.nested
  rw [String.toList_ofList] at hnested
  exact Markup.not_nested_of_closing hbracket hbackslash hopen hclose back hnested

end Console
end VersionStamp
