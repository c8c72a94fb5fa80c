/-
What is stamped is what is read back, as far as the two sides agree on what a
line is.

Writing ends a line with a line feed; reading ends it at every separator of
Unicode. `read_write_eq_ok_iff` is the exact condition: a file that was written
is read back as the entries that were written if and only if neither the display
version nor the revision holds a character at which reading breaks a line. Line
feed and carriage return are two of ten, and the others may stand in a tag or
a suffix: `line_separator_in_tag_is_not_read_back`.
-/
import VersionStamp.Proofs.PropertiesCodec
import VersionStamp.Proofs.ReadAfterWrite
import VersionStamp.Proofs.Resolution
import VersionStamp.Stamp

namespace VersionStamp.Stamp

open Properties World

/-- All that a successful `store` does: it makes the directories above, and writes the file. -/
theorem store_eq_ok {info : VersionInfo} {path p : String} {w : World} (h : (store info path w).2 = .ok p) :
    p = (Location.ofPath w.here path).text ∧
      (w.files.createDirectories w.here (Location.ofPath w.here path).parent.text.toList).1.write w.here p
        (Properties.render info w.now).toUTF8 = .ok (store info path w).1 := by
  simp only [store] at h ⊢
  split at h
  · cases h
  next made _ hmade =>
  split at h
  next files hwrite =>
    obtain rfl := Except.ok.inj h
    refine ⟨rfl, ?_⟩
    rw [hmade]
    dsimp only
    rw [hwrite]
  · cases h

/-- The octets of a text are read as that text, whatever its ends of lines. -/
theorem entriesOf_toUTF8 (path content : String) :
    Stamp.entriesOf path content.toUTF8 = (parse content).mapError .badLine := by
  rw [Stamp.entriesOf, show content.toUTF8 = content.toByteArray from rfl, Text.Utf8.decode_toByteArray]
  simp only [parse_unifyBreaks]
  cases parse content <;> rfl

/-- Reading what was just written is reading the text that was written. -/
theorem read_after_write {info : VersionInfo} {path p : String} {w : World}
    (h : ((write info path).run w).result = .ok p) :
    ((read p).run (w.after ((write info path).run w))).result =
      (parse (Properties.render info w.now)).mapError fun line => .properties (.badLine line) := by
  rw [write, Action.run_orFault_onFiles] at h ⊢
  obtain ⟨-, hwrite⟩ := store_eq_ok (Except.mapError_eq_ok.1 h)
  have hread := FileTree.read_write hwrite
  rw [read, Action.run_bind_ok (by rw [Action.run_world])]
  simp only [Action.run_world, World.after, Report.andThen, load, hread, entriesOf_toUTF8]
  cases parse (Properties.render info w.now) <;> rfl

/-- **What is stamped is what is read back**, for every usable environment, every foreseen behaviour
of git, either mode, every path and every world to write in, exactly as long as reading breaks no
line inside the display version or the revision. The clock's zone is asked for nothing but a name
that stays on its line, if it goes by one; the program's own clock is in UTC
(`Moment.unbroken_zone_utc`). -/
theorem read_write_eq_ok_iff {env : Environment} {s : Settings} (henv : Settings.ofEnvironment env = .ok s)
    {w : World} (hgit : w.git.Foreseen) (directory : String) (release : Bool) :
    ∃ info, (((Resolver.ofSettings directory s).compute release).run w).result = .ok info ∧
      ∀ (v : World) (path p : String), (∀ z ∈ v.now.zone, z.Unbroken) →
        ((write info path).run v).result = .ok p →
          (((read p).run (v.after ((write info path).run v))).result = .ok (Properties.entriesOf info) ↔
            Text.Unbroken info.displayVersion.toList ∧ Text.Unbroken info.revision.toList) := by
  obtain ⟨info, hinfo⟩ := Resolver.compute_foreseen hgit (Resolver.ofSettings directory s) release
  obtain ⟨hversion, hrevision⟩ := Resolver.compute_tidy (Settings.reads_ofEnvironment henv).tidy hinfo
  refine ⟨info, hinfo, fun v path p hzone hwrite => ?_⟩
  rw [read_after_write hwrite, Except.mapError_eq_ok]
  constructor
  · intro hread
    obtain ⟨hv, hr⟩ := (writable_entriesOf_iff info).1 (parse_entries hread)
    exact ⟨hv.unbroken, hr.unbroken⟩
  · rintro ⟨hv, hr⟩
    exact parse_render_of_writable hzone ((writable_entriesOf_iff info).2 ⟨⟨hv, hversion⟩, ⟨hr, hrevision⟩⟩)

/-! ## Two tags -/

/-- The root is there, and nothing has to be made for a file in it. -/
theorem store_describedAs (described : String) (info : VersionInfo) :
    (store info "out" (describedAs described)).2 = .ok "/out" := by
  have hroot : (describedAs described).files.createDirectories [] "/".toList =
      ((describedAs described).files, .ok ()) := by
    rw [FileTree.createDirectories]
    rfl
  have hparent : (Location.ofPath [] "out").parent.text = "/" := by decide
  have hplace : (Location.ofPath [] "out").text = "/out" := by decide
  have hhere : (describedAs described).here = [] := rfl
  simp only [store, hhere, hparent, hplace, hroot]
  generalize Properties.render info (describedAs described).now = content
  rfl

theorem write_describedAs (described : String) (info : VersionInfo) :
    ((write info "out").run (describedAs described)).result = .ok "/out" := by
  rw [write, Action.run_orFault_onFiles, store_describedAs]
  rfl

/-- A commit five behind its tag, as git describes it. -/
theorem tag_with_hash_is_read_back :
    Settings.ofEnvironment [] = .ok Settings.initial ∧ (describedAs "v1-5-gbeef").git.Foreseen ∧
      ∃ info p,
        (((Resolver.ofSettings "/repo" Settings.initial).compute false).run (describedAs "v1-5-gbeef")).result =
          .ok info ∧
        ((write info "out").run (describedAs "v1-5-gbeef")).result = .ok p ∧
        ((read p).run ((describedAs "v1-5-gbeef").after ((write info "out").run (describedAs "v1-5-gbeef")))).result =
          .ok [("application.version", "v1-5-beef-SNAPSHOT"), ("git.revision", "v1-5-beef"),
            ("build.mode", "snapshot")] := by
  have henv : Settings.ofEnvironment [] = .ok Settings.initial := rfl
  have hgit := foreseen_describedAs "v1-5-gbeef"
  obtain ⟨info, hinfo, hback⟩ := read_write_eq_ok_iff henv hgit "/repo" false
  obtain rfl := Except.ok.inj (hinfo.symm.trans
    (compute_describedAs (by decide) (by decide) (r := .ofSettings "/repo" Settings.initial) rfl false))
  have hwrite := write_describedAs "v1-5-gbeef"
    ((Resolver.ofSettings "/repo" Settings.initial).snapshotInfo none (.found (Git.compact "v1-5-gbeef")))
  exact ⟨henv, hgit, _, _, hinfo, hwrite, (hback _ _ _ (Moment.unbroken_zone_utc 0) hwrite).2 ⟨by decide, by decide⟩⟩

/-- A line separator is allowed in the name of a tag. It is written as it stands, and reading takes
what is behind it for a line of its own. -/
theorem line_separator_in_tag_is_not_read_back :
    Settings.ofEnvironment [] = .ok Settings.initial ∧ (describedAs "v1\u2028rc").git.Foreseen ∧
      '\n' ∉ "v1\u2028rc".toList ∧ '\r' ∉ "v1\u2028rc".toList ∧
      ∃ info p,
        (((Resolver.ofSettings "/repo" Settings.initial).compute false).run (describedAs "v1\u2028rc")).result =
          .ok info ∧
        ((write info "out").run (describedAs "v1\u2028rc")).result = .ok p ∧
        ((read p).run ((describedAs "v1\u2028rc").after ((write info "out").run (describedAs "v1\u2028rc")))).result =
          .error (.properties (.badLine ⟨3, "rc-SNAPSHOT"⟩)) := by
  have hinfo : (((Resolver.ofSettings "/repo" Settings.initial).compute false).run (describedAs "v1\u2028rc")).result =
      .ok ((Resolver.ofSettings "/repo" Settings.initial).snapshotInfo none (.found (Git.compact "v1\u2028rc"))) :=
    compute_describedAs (by decide) (by decide) rfl false
  have hwrite := write_describedAs "v1\u2028rc"
    ((Resolver.ofSettings "/repo" Settings.initial).snapshotInfo none (.found (Git.compact "v1\u2028rc")))
  refine ⟨rfl, foreseen_describedAs _, by decide, by decide, _, _, hinfo, hwrite, ?_⟩
  rw [read_after_write hwrite, show (describedAs "v1\u2028rc").now = .utc 0 from rfl,
    parse_render (Moment.unbroken_zone_utc 0)]
  rfl

end VersionStamp.Stamp
