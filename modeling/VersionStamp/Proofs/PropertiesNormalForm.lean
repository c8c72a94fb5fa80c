/-
The normal form of properties.

Entries are in normal form if each of them can be written and their keys differ
(`Normal`). Putting another entry that can be written keeps them so (`Normal.put`),
and thus whatever is read is in normal form. Conversely entries in normal form are
read back from what is written for them, so `parse_normal_form`: they are all that
can be read, and to write and read them once more changes nothing.
-/
import VersionStamp.Proofs.PropertiesLines

namespace VersionStamp

theorem Ledger.nodup_keys_put {κ β : Type} [DecidableEq κ] {m : Ledger κ β} (h : m.keys.Nodup) (k : κ) (v : β) :
    (m.put k v).keys.Nodup := by
  rw [keys_put]
  split
  · exact h
  next hk =>
    refine List.nodup_append.2 ⟨h, List.pairwise_singleton _ k, ?_⟩
    rintro a ha b hb rfl
    exact hk (List.mem_singleton.1 hb ▸ ha)

namespace Properties

/-- Entries of which each fits on a line of its own, under keys that differ. -/
structure Normal (es : Entries) : Prop where
  writable : Writable es
  nodup : es.keys.Nodup

theorem normal_nil : Normal [] := ⟨nofun, List.nodup_nil⟩

theorem Normal.put {es : Entries} (h : Normal es) {k v : String} (hk : IsKey k) (hv : Text.OneLine v) :
    Normal (es.put k v) :=
  ⟨h.writable.put hk hv, Ledger.nodup_keys_put h.nodup k v⟩

theorem normal_of_parse {content : String} {es : Entries} (h : parse content = .ok es) : Normal es :=
  readLines_invariant (fun _ _ _ hbefore hk hv => hbefore.put hk hv) (Text.Chars.unbroken_of_mem_lines _) normal_nil h

theorem Normal.parse_render {es : Entries} (h : Normal es) : parse (renderEntries es) = .ok es :=
  parse_renderEntries h.writable h.nodup

/-- **What can be read are exactly the entries in normal form.** Each of their keys fits on one line, is not empty,
has no equals sign, begins no comment and stands once; each value fits on one line. Written one a line, all
entries in normal form are read back as they are, in the same order. So reading what was written for the entries
of a text comes to the same as reading that text. -/
theorem parse_normal_form :
    (∀ es : Entries, (∃ content, parse content = .ok es) ↔ Normal es) ∧
    (∀ es : Entries, Normal es → parse (renderEntries es) = .ok es) ∧
    ∀ (content : String) (es : Entries), parse content = .ok es → parse (renderEntries es) = parse content := by
  refine ⟨fun es => ⟨?_, fun h => ⟨_, h.parse_render⟩⟩, fun es h => h.parse_render, fun content es h => ?_⟩
  · rintro ⟨content, h⟩
    exact normal_of_parse h
  · rw [h, (normal_of_parse h).parse_render]

/-- Blanks, a comment, and the first value of a key are gone from what is written again. -/
theorem spaced_text_is_normalised :
    parse " b = 1\u2028! c\n\u3000a=\tx y\r\nb==3" = .ok [("b", "=3"), ("a", "x y")] ∧
      renderEntries [("b", "=3"), ("a", "x y")] = "b==3\na=x y\n" ∧
      parse "b==3\na=x y\n" = .ok [("b", "=3"), ("a", "x y")] ∧
      Normal [("b", "=3"), ("a", "x y")] := by
  have hread : parse " b = 1\u2028! c\n\u3000a=\tx y\r\nb==3" = .ok [("b", "=3"), ("a", "x y")] := by decide
  have hwritten : renderEntries [("b", "=3"), ("a", "x y")] = "b==3\na=x y\n" := by decide
  obtain ⟨himage, -, hagain⟩ := parse_normal_form
  refine ⟨hread, hwritten, ?_, (himage _).1 ⟨_, hread⟩⟩
  rw [← hwritten, hagain _ _ hread, hread]

end Properties
end VersionStamp
