/-
What `resolve --json` prints identifies the version that was resolved.

`json_identifies_version`: it is ASCII, and two runs print the same exactly if they
resolved the same version, branch included. No text in one field, with whatever
quotes, line breaks or characters of other scripts in it, can look like another text, or
like another field.
-/
import VersionStamp.Proofs.JsonReading
import VersionStamp.Proofs.ResolvingCommands

namespace VersionStamp.CommandLine

namespace ResolveOptions

/-- In this world the options resolve this version, and say so on the error stream. -/
def Resolves (o : ResolveOptions) (w : World) (info : VersionInfo) : Prop :=
  ∃ s, Settings.ofEnvironment w.env = .ok s ∧ ((o.resolveWith s .errors).run w).result = .ok info

theorem Resolves.unique {o : ResolveOptions} {w : World} {info info' : VersionInfo} (h : o.Resolves w info)
    (h' : o.Resolves w info') : info = info' := by
  obtain ⟨s, hs, hinfo⟩ := h
  obtain ⟨s', hs', hinfo'⟩ := h'
  obtain rfl := Except.ok.inj (hs.symm.trans hs')
  exact Except.ok.inj (hinfo.symm.trans hinfo')

theorem json_ofSettings {given : List (Setting ResolveOption)} (h : ∃ value, (.json, value) ∈ given) :
    (ofSettings given).json = true := by
  obtain ⟨value, hmem⟩ := h
  rw [ofSettings_eq]
  exact decide_eq_true (List.ne_nil_of_mem (mem_valuesOf.2 hmem))

end ResolveOptions

theorem run_resolve {given : List (Setting ResolveOption)} {words : List String}
    (h : Spells (ResolveOption.all true) given [] words) :
    run ("resolve" :: words) = .ok (resolve (.ofSettings given)) := by
  rw [run, parse_command (by decide), Command.parse, if_neg (by decide), if_pos rfl, resolveWords_of_spells h]
  rfl

section

variable {o : ResolveOptions} (hjson : o.json = true) {w : World}
include hjson

theorem resolve_of_resolves {info : VersionInfo} (h : o.Resolves w info) :
    ((resolve o).run w).result = .ok .success ∧ ((resolve o).run w).output = Json.ofInfo info ++ "\n" := by
  have ho : { o with json := true } = o := by rw [← hjson]
  obtain ⟨s, hs, hinfo⟩ := h
  obtain ⟨hdone, hprinted, -⟩ := resolve_json_of_resolveWith hs hinfo
  rw [ho] at hdone hprinted
  exact ⟨hdone, hprinted⟩

/-- Where `resolve --json` succeeds, it prints the JSON of the version it resolved. -/
theorem resolves_of_resolve (h : ((resolve o).run w).result = .ok .success) :
    ∃ info, o.Resolves w info ∧ ((resolve o).run w).output = Json.ofInfo info ++ "\n" := by
  obtain ⟨s, info, hs, hinfo, -⟩ := ResolveOptions.resolving_success h
  rw [if_pos hjson] at hinfo
  have hresolves : o.Resolves w info := ⟨s, hs, hinfo⟩
  exact ⟨info, hresolves, (resolve_of_resolves hjson hresolves).2⟩

end

/-- **The output of `resolve --json` identifies the result.** Let two command lines give any options, `--json` among them,
and let both succeed, each in a world of its own. Then both outputs are ASCII, and they are equal exactly if the
same version was resolved: the same base version, suffix, mode, revision, displayed version, and branch or none. -/
theorem json_identifies_version {given given' : List (Setting ResolveOption)} {words words' : List String}
    (hwords : Spells (ResolveOption.all true) given [] words) (hwords' : Spells (ResolveOption.all true) given' [] words')
    (hjson : ∃ value, (.json, value) ∈ given) (hjson' : ∃ value, (.json, value) ∈ given') :
    ∃ act act', run ("resolve" :: words) = .ok act ∧ run ("resolve" :: words') = .ok act' ∧
      ∀ w w' : World, (act.run w).result = .ok .success → (act'.run w').result = .ok .success →
        ∃ info info', (ResolveOptions.ofSettings given).Resolves w info ∧
          (ResolveOptions.ofSettings given').Resolves w' info' ∧
          Json.Ascii (act.run w).output.toList ∧ Json.Ascii (act'.run w').output.toList ∧
          ((act.run w).output = (act'.run w').output ↔ info = info') := by
  have hascii : ∀ info, Json.Ascii (Json.ofInfo info ++ "\n").toList := by
    intro info
    rw [String.toList_append]
    exact (Json.ascii_ofInfo info).append (by decide)
  refine ⟨_, _, run_resolve hwords, run_resolve hwords', fun w w' hdone hdone' => ?_⟩
  obtain ⟨info, hresolves, hprinted⟩ := resolves_of_resolve (ResolveOptions.json_ofSettings hjson) hdone
  obtain ⟨info', hresolves', hprinted'⟩ := resolves_of_resolve (ResolveOptions.json_ofSettings hjson') hdone'
  rw [hprinted, hprinted']
  refine ⟨info, info', hresolves, hresolves', hascii info, hascii info', fun h => ?_, fun h => by rw [h]⟩
  exact Json.ofInfo_inj ((String.append_left_inj _).1 h)

/-! ## A line break, and the two characters that stand for it -/

open World

/-- The suffixes are not confused, although an escape stands for the one and its characters make up the other. -/
theorem line_break_is_told :
    Spells (ResolveOption.all true) [(.json, ""), (.suffix, "é\n")] [] ["--json", "--suffix", "é\n"] ∧
      Spells (ResolveOption.all true) [(.suffix, "é\\n"), (.json, "")] [] ["--suffix", "é\\n", "--json"] ∧
      ∃ act act', run ["resolve", "--json", "--suffix", "é\n"] = .ok act ∧
        run ["resolve", "--suffix", "é\\n", "--json"] = .ok act' ∧
        (act.run (describedAs "v1")).result = .ok .success ∧ (act'.run (describedAs "v1")).result = .ok .success ∧
        Json.Ascii (act.run (describedAs "v1")).output.toList ∧
        (act.run (describedAs "v1")).output ≠ (act'.run (describedAs "v1")).output := by
  have hwords : Spells (ResolveOption.all true) [(.json, ""), (.suffix, "é\n")] [] ["--json", "--suffix", "é\n"] :=
    spells_of_sort (by simp [sort, shape, cutValue, withSettings, ResolveOption.all, ResolveOption.long?,
      ResolveOption.takesValue])
  have hwords' : Spells (ResolveOption.all true) [(.suffix, "é\\n"), (.json, "")] [] ["--suffix", "é\\n", "--json"] :=
    spells_of_sort (by simp [sort, shape, cutValue, withSettings, ResolveOption.all, ResolveOption.long?,
      ResolveOption.takesValue])
  obtain ⟨act, act', hrun, hrun', htell⟩ := json_identifies_version hwords hwords' ⟨"", by decide⟩ ⟨"", by decide⟩
  obtain rfl := Except.ok.inj (hrun.symm.trans (run_resolve hwords))
  obtain rfl := Except.ok.inj (hrun'.symm.trans (run_resolve hwords'))
  have henv : Settings.ofEnvironment (describedAs "v1").env = .ok Settings.initial := Settings.ofEnvironment_nil
  obtain ⟨info, hinfo, hversion⟩ :=
    resolveWith_describedAs "v1" (by decide) (by decide) (by decide) rfl
      (show ¬ReleaseRequested [(.json, ""), (.suffix, "é\n")] [] by decide) .errors
  obtain ⟨info', hinfo', hversion'⟩ :=
    resolveWith_describedAs "v1" (by decide) (by decide) (by decide) rfl
      (show ¬ReleaseRequested [(.suffix, "é\\n"), (.json, "")] [] by decide) .errors
  obtain ⟨hdone, -⟩ := resolve_of_resolves rfl ⟨_, henv, hinfo⟩
  obtain ⟨hdone', -⟩ := resolve_of_resolves rfl ⟨_, henv, hinfo'⟩
  obtain ⟨info₁, info₂, hresolves, hresolves', hascii, -, hiff⟩ := htell _ _ hdone hdone'
  refine ⟨hwords, hwords', _, _, hrun, hrun', hdone, hdone', hascii, fun hsame => ?_⟩
  have hversions : info.displayVersion = info'.displayVersion := by
    rw [ResolveOptions.Resolves.unique ⟨_, henv, hinfo⟩ hresolves, hiff.1 hsame,
      ResolveOptions.Resolves.unique hresolves' ⟨_, henv, hinfo'⟩]
  rw [hversion, hversion'] at hversions
  exact absurd hversions (by decide)

end VersionStamp.CommandLine
