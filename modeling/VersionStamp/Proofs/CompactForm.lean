/-
The compact form of a described revision.

`compact_drops_marker`: the compact form lacks the `g` of the leftmost `-g`, and is
otherwise the text as it was. So of a commit that is described by its tag, the number
of commits since and its hash, all three are still there: the marker of the hash is
the leftmost one whenever the tag has none (`compact_text`), and the hyphens that stand
last tell the parts apart (`compactText_inj`). Blanks at an end do not come about.
-/
import Mathlib.Data.Bool.AllAny
import Mathlib.Data.List.Infix
import VersionStamp.Proofs.Resolution

namespace VersionStamp.Git

open Text.Chars (append_separator_inj)

/-- The marker in front of a hash, with the hyphen before it. -/
def marker : String := "-g"

theorem toList_marker : marker.toList = ['-', 'g'] := by decide

/-! ## The leftmost marker -/

/-- A hyphen between two stretches begins no marker, unless a `g` follows it. -/
theorem marker_infix_append_iff {a b : List Char} (hb : b.head? ≠ some 'g') :
    ['-', 'g'] <:+: a ++ '-' :: b ↔ ['-', 'g'] <:+: a ∨ ['-', 'g'] <:+: b := by
  have hstart : ¬['-', 'g'] <+: '-' :: b := by
    rw [List.cons_prefix_cons]
    rintro ⟨-, rest, rfl⟩
    exact hb rfl
  induction a with
  | nil => simp [List.infix_cons_iff, hstart]
  | cons c a ih =>
    have hsame : ['-', 'g'] <+: c :: (a ++ '-' :: b) ↔ ['-', 'g'] <+: c :: a := by
      cases a with
      | nil => simp [List.cons_prefix_cons]
      | cons d a => simp [List.cons_prefix_cons]
    rw [List.cons_append, List.infix_cons_iff, List.infix_cons_iff, hsame, or_assoc]
    exact or_congr_right ih

/-- A marker is the leftmost one if there is none up to its hyphen. -/
theorem length_le_of_leftmost {front rest front' rest' : List Char} (hfront : ¬['-', 'g'] <:+: front ++ ['-'])
    (h : front ++ '-' :: 'g' :: rest = front' ++ '-' :: 'g' :: rest') : front.length ≤ front'.length := by
  by_contra hlt
  have hbefore : front ++ ['-'] <+: front ++ '-' :: 'g' :: rest := ⟨'g' :: rest, by simp⟩
  have hother : front' ++ ['-', 'g'] <+: front ++ '-' :: 'g' :: rest := ⟨rest', by simp [h]⟩
  have hlength : (front' ++ ['-', 'g']).length ≤ (front ++ ['-']).length := by
    simp only [List.length_append, List.length_cons, List.length_nil]
    omega
  have hinside : front' ++ ['-', 'g'] <+: front ++ ['-'] := List.prefix_of_prefix_length_le hother hbefore hlength
  exact hfront ((List.suffix_append front' _).isInfix.trans hinside.isInfix)

theorem compact_of_no_marker {described : String} (h : ¬marker.toList <:+: described.toList) :
    compact described = described := by
  rw [toList_marker] at h
  rw [← String.toList_inj, toList_compact]
  exact (Compacts.unmarked h).eq_dropMarker.symm

theorem compact_of_marker {described : String} (h : marker.toList <:+: described.toList) :
    ∃ front rest, described = front ++ marker ++ rest ∧ compact described = front ++ "-" ++ rest ∧
      ∀ front' rest', described = front' ++ marker ++ rest' → front.length ≤ front'.length := by
  rw [toList_marker] at h
  have hcompact := compacts_compact described
  generalize hd : described.toList = cs at hcompact h
  generalize hc : (compact described).toList = ds at hcompact
  cases hcompact with
  | unmarked hnone => exact absurd h hnone
  | @marked front rest hfront =>
    refine ⟨String.ofList front, String.ofList rest, ?_, ?_, fun front' rest' h' => ?_⟩
    · rw [← String.toList_inj, hd]
      simp [toList_marker]
    · rw [← String.toList_inj, hc]
      simp
    · rw [← String.toList_inj, hd] at h'
      have hsplit : front ++ '-' :: 'g' :: rest = front'.toList ++ '-' :: 'g' :: rest'.toList := by
        simpa [toList_marker] using h'
      rw [String.length_ofList]
      exact length_le_of_leftmost hfront hsplit

/-! ## A described commit -/

/-- A digit in base sixteen. -/
def IsHexDigit (c : Char) : Prop := c.isDigit ∨ 'a' ≤ c ∧ c ≤ 'f' ∨ 'A' ≤ c ∧ c ≤ 'F'

instance (c : Char) : Decidable (IsHexDigit c) := inferInstanceAs (Decidable (_ ∨ _ ∨ _))

/-- A commit as git describes it: so many commits after a tag, and its hash. -/
@[ext] structure Description where
  tag : String
  count : String
  hash : String
  unmarked : ¬marker.toList <:+: tag.toList
  count_ne : count ≠ ""
  decimal : ∀ c ∈ count.toList, c.isDigit
  hexadecimal : ∀ c ∈ hash.toList, IsHexDigit c

namespace Description

/-- The description as git writes it. -/
def text (d : Description) : String := d.tag ++ "-" ++ d.count ++ marker ++ d.hash

/-- The description without the marker of the hash. -/
def compactText (d : Description) : String := d.tag ++ "-" ++ d.count ++ "-" ++ d.hash

theorem hyphen_not_mem_count (d : Description) : '-' ∉ d.count.toList :=
  fun h => absurd (d.decimal '-' h) (by decide)

theorem hyphen_not_mem_hash (d : Description) : '-' ∉ d.hash.toList :=
  fun h => absurd (d.hexadecimal '-' h) (by decide)

/-- There is no marker in front of that of the hash. -/
theorem no_marker_before_hash (d : Description) :
    ¬['-', 'g'] <:+: d.tag.toList ++ '-' :: d.count.toList ++ ['-'] := by
  have hcount : ¬['-', 'g'] <:+: d.count.toList := fun h => d.hyphen_not_mem_count (h.subset List.mem_cons_self)
  have hdigit : (d.count.toList ++ ['-']).head? ≠ some 'g' := by
    rw [List.head?_append_of_ne_nil _ (by simpa using d.count_ne)]
    exact fun h => absurd (d.decimal 'g' (List.mem_of_mem_head? h)) (by decide)
  rw [List.append_assoc, List.cons_append, marker_infix_append_iff hdigit, marker_infix_append_iff (by simp)]
  rintro (htag | hcount' | hnil)
  · exact d.unmarked (toList_marker ▸ htag)
  · exact hcount hcount'
  · simp at hnil

theorem compact_text (d : Description) : compact d.text = d.compactText := by
  have htext : d.text.toList = (d.tag.toList ++ '-' :: d.count.toList) ++ '-' :: 'g' :: d.hash.toList := by
    simp [text, toList_marker]
  rw [← String.toList_inj, toList_compact, htext, ← (Compacts.marked _ d.no_marker_before_hash).eq_dropMarker]
  simp [compactText]

/-- The compact text still tells the tag, the count and the hash. -/
theorem compactText_inj {d d' : Description} (h : d.compactText = d'.compactText) : d = d' := by
  have hlist : ∀ d : Description, d.compactText.toList.reverse =
      d.hash.toList.reverse ++ '-' :: (d.count.toList.reverse ++ '-' :: d.tag.toList.reverse) := by
    simp [compactText]
  have hreverse := congrArg (fun s => s.toList.reverse) h
  simp only [hlist] at hreverse
  rw [append_separator_inj (by simpa using d.hyphen_not_mem_hash) (by simpa using d'.hyphen_not_mem_hash),
    append_separator_inj (by simpa using d.hyphen_not_mem_count) (by simpa using d'.hyphen_not_mem_count)] at hreverse
  simp only [List.reverse_inj, String.toList_inj] at hreverse
  obtain ⟨hhash, hcount, htag⟩ := hreverse
  exact Description.ext htag hcount hhash

end Description

/-- What a process of git tells of a snapshot is a text without blanks at its ends, and so is what stands in
for it where it tells nothing. -/
theorem revision_of_process {r : Resolver} {w : World} {info : VersionInfo} (hr : r.runner = .process)
    (h : ((r.compute false).run w).result = .ok info) :
    Text.trim info.revision = info.revision ∧ info.revision ≠ "" := by
  obtain ⟨branch, -, ⟨hrelease, -⟩ | ⟨-, described, hdescribed, rfl⟩⟩ := Resolver.compute_eq_ok h
  · cases hrelease
  · exact Resolver.described_trimmed hr hdescribed (show Text.trim "dirty" = "dirty" by decide) (by decide)

/-- **Compaction drops the marker of the hash and nothing else.** A text without `-g` is as it was; of any other
the `g` is left out of the `-g` that stands furthest to the left, and no more. So a commit that is described by a
tag without a marker, by the number of commits since and by its hash is described in compact form by the same
three, which are those of no other commit. What has no blanks at its ends has none afterwards, and is not
empty if it was not; hence the revision of a snapshot, if a process of git was asked, is a text without blanks
at its ends. -/
theorem compact_drops_marker :
    (∀ described : String, ¬marker.toList <:+: described.toList → compact described = described) ∧
    (∀ described : String, marker.toList <:+: described.toList →
      ∃ front rest, described = front ++ marker ++ rest ∧ compact described = front ++ "-" ++ rest ∧
        ∀ front' rest', described = front' ++ marker ++ rest' → front.length ≤ front'.length) ∧
    (∀ d : Description, compact d.text = d.compactText) ∧
    (∀ d d' : Description, compact d.text = compact d'.text → d = d') ∧
    (∀ described : String, Text.trim described = described → described ≠ "" →
      Text.trim (compact described) = compact described ∧ compact described ≠ "") ∧
    ∀ (r : Resolver) (w : World) (info : VersionInfo), r.runner = .process →
      ((r.compute false).run w).result = .ok info → Text.trim info.revision = info.revision ∧ info.revision ≠ "" := by
  refine ⟨fun _ => compact_of_no_marker, fun _ => compact_of_marker, Description.compact_text, fun d d' h => ?_,
    fun _ => compact_trimmed, fun _ _ _ => revision_of_process⟩
  rw [d.compact_text, d'.compact_text] at h
  exact Description.compactText_inj h

/-- A tag that ends in a hyphen and has a `g` in front. -/
def beforeHash : Description where
  tag := "gv-"
  count := "12"
  hash := "0f"
  unmarked := by decide
  count_ne := by decide
  decimal := List.all_iff_forall_prop.1 (by decide)
  hexadecimal := List.all_iff_forall_prop.1 (by decide)

/-- The marker is found behind such a tag, and in front of a tag's own letters where it comes first; a text
with no marker is left alone. -/
theorem first_marker_is_dropped :
    compact "gv--12-g0f" = "gv--12-0f" ∧ (∀ d : Description, compact d.text = "gv--12-0f" → d = beforeHash) ∧
      compact "v-gamma-1-g0f" = "v-amma-1-g0f" ∧ compact "v1--" = "v1--" ∧
      (Text.trim (compact "-g") = compact "-g" ∧ compact "-g" ≠ "") ∧
      ∃ info, (((Resolver.ofSettings "/repo" Settings.initial).compute false).run (World.describedAs "-g")).result =
        .ok info ∧ Text.trim info.revision = info.revision ∧ info.revision ≠ "" := by
  obtain ⟨hnone, hsome, htext, hinj, htrim, hrevision⟩ := compact_drops_marker
  refine ⟨htext beforeHash, fun d h => hinj d beforeHash (h.trans (htext beforeHash).symm), ?_, hnone "v1--" (by decide),
    htrim "-g" (by decide) (by decide), ?_⟩
  · obtain ⟨front, rest, hparts, hcompact, hleft⟩ := hsome "v-gamma-1-g0f" (by decide)
    have hlength : front.toList.length ≤ 1 := hleft "v" "amma-1-g0f" (by decide)
    have hlist : "v-gamma-1-g0f".toList = front.toList ++ '-' :: 'g' :: rest.toList := by
      simpa [toList_marker] using congrArg String.toList hparts
    rw [hcompact, ← String.toList_inj]
    match hfront : front.toList, hlength with
    | [], _ => simp [hfront] at hlist
    | [c], _ =>
      obtain ⟨rfl, hrest⟩ : 'v' = c ∧ "amma-1-g0f".toList = rest.toList := by simpa [hfront] using hlist
      simp [hfront, ← hrest]
  · have hinfo : (((Resolver.ofSettings "/repo" Settings.initial).compute false).run (World.describedAs "-g")).result =
        .ok ((Resolver.ofSettings "/repo" Settings.initial).snapshotInfo none (.found "-")) :=
      World.compute_describedAs (by decide) (by decide) rfl false
    exact ⟨_, hinfo, hrevision _ _ _ rfl hinfo⟩

end VersionStamp.Git
