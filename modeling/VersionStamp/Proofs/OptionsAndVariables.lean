/-
Options and variables for the base version and the suffix.

The options are read by other rules than the variables: a base version counts if it
is not empty, a suffix even if it is, and neither is trimmed. On texts without blanks
at their ends the rules meet, so `options_or_variables`: it is all one whether
such texts are given by options or by variables.
-/
import VersionStamp.Proofs.Demands
import VersionStamp.Proofs.PrintVersion

namespace VersionStamp

/-- The environment with these two variables set, whatever they held before. -/
def Environment.withTexts (env : Environment) (baseVersion suffix : String) : Environment :=
  (env.put Environment.baseVersion baseVersion).put Environment.suffix suffix

section

variable (env : Environment) (baseVersion suffix : String)

theorem Environment.get?_withTexts (name : String) (hbase : name ≠ Environment.baseVersion)
    (hsuffix : name ≠ Environment.suffix) : (env.withTexts baseVersion suffix).get? name = env.get? name := by
  rw [withTexts, Ledger.get?_put_other _ _ hsuffix, Ledger.get?_put_other _ _ hbase]

theorem Environment.text_withTexts (name : String) (hbase : name ≠ Environment.baseVersion)
    (hsuffix : name ≠ Environment.suffix) : (env.withTexts baseVersion suffix).text name = env.text name := by
  rw [text, get?_withTexts env baseVersion suffix name hbase hsuffix, text]

/-- The two variables set two settings, and whether there are settings at all is up to the others. -/
theorem Settings.ofEnvironment_withTexts :
    ofEnvironment (env.withTexts baseVersion suffix) = (ofEnvironment env).map fun s =>
      { s with baseVersion := orElse (Text.trim baseVersion) initial.baseVersion, suffix := Text.trim suffix } := by
  have hbase : (env.withTexts baseVersion suffix).text Environment.baseVersion = baseVersion := by
    rw [Environment.text, Environment.withTexts, Ledger.get?_put_other _ _ (by decide), Ledger.get?_put_self,
      Option.getD_some]
  have hsuffix : (env.withTexts baseVersion suffix).get? Environment.suffix = some suffix := by
    rw [Environment.withTexts, Ledger.get?_put_self]
  have htask := env.text_withTexts baseVersion suffix Environment.releaseTask (by decide) (by decide)
  have htimeout := env.text_withTexts baseVersion suffix Environment.gitTimeout (by decide) (by decide)
  have hlogs := env.text_withTexts baseVersion suffix Environment.logDirectory (by decide) (by decide)
  simp only [ofEnvironment, hbase, hsuffix, htask, htimeout, hlogs]
  split <;> rfl

end

/-- A world encloses the same checkouts if no one's home moves. -/
theorem Checkout.locate_of_home {w : World} {env : Environment}
    (h : env.get? Environment.home = w.env.get? Environment.home) (now : Moment) (path : String) :
    locate { w with env := env, now := now } path = locate w path := by
  have hhome : homeOf { w with env := env, now := now } = homeOf w := by rw [homeOf, homeOf, h]
  rw [locate, locate, expandHome, expandHome, hhome]
  rfl

namespace CommandLine

/-- Options in front of others that give no base version and no suffix. -/
theorem ResolveOptions.ofSettings_texts {given : List (Setting ResolveOption)} (hbase : valuesOf .baseVersion given = [])
    (hsuffix : valuesOf .suffix given = []) (baseVersion suffix : String) :
    ofSettings ((.baseVersion, baseVersion) :: (.suffix, suffix) :: given) =
      { ofSettings given with baseVersion := some baseVersion, suffix := some suffix } := by
  rw [ofSettings_eq, ofSettings_eq]
  simp [lastValue?, valuesOf_cons, hbase, hsuffix]

variable {baseVersion suffix : String}

theorem ResolveOptions.plan_withTexts {o : ResolveOptions} (hbase : o.baseVersion = none) (hsuffix : o.suffix = none)
    (htrim : Text.trim baseVersion = baseVersion) (hne : baseVersion ≠ "") (htrim' : Text.trim suffix = suffix)
    (w : World) (now : Moment) :
    plan { o with baseVersion := some baseVersion, suffix := some suffix } w =
      o.plan { w with env := w.env.withTexts baseVersion suffix, now := now } := by
  have hdirectory := w.env.text_withTexts baseVersion suffix Environment.directory (by decide) (by decide)
  have hstart : o.startIn { w with env := w.env.withTexts baseVersion suffix, now := now } = o.startIn w := by
    rw [startIn, startIn, hdirectory]
  have hlocate := Checkout.locate_of_home
    (w.env.get?_withTexts baseVersion suffix Environment.home (by decide) (by decide)) now
  rw [plan, plan, hstart, hlocate, Settings.ofEnvironment_withTexts, htrim, htrim']
  cases Settings.ofEnvironment w.env with
  | error e => rfl
  | ok s =>
    have hoverride : override { o with baseVersion := some baseVersion, suffix := some suffix } s =
        o.override { s with
          baseVersion := Settings.orElse baseVersion Settings.initial.baseVersion, suffix := suffix } := by
      simp [override, hbase, hsuffix, Settings.orElse, hne]
    simp only [Except.map, hoverride]
    rfl

/-- **Options and variables are interchangeable.** Let a base version that is not empty, and a suffix that may be, have
no blanks at their ends. In every world a resolving command, whose words give no base version and no suffix, has the
same answer whether they are given by options in front of its words, whatever the variables hold, or by the
variables: the same is wrong with the words, or the command ends the same, prints the same on both streams, asks git
the same, and leaves the same files but for the moment. -/
theorem options_or_variables {name : String} (hname : name ∈ resolvingNames) {words : List String}
    (hbase : Without .baseVersion name words) (hsuffix : Without .suffix name words)
    (htrim : Text.trim baseVersion = baseVersion) (hne : baseVersion ≠ "") (htrim' : Text.trim suffix = suffix)
    (w : World) (now : Moment) :
    SameAnswer (Report.SameBut w.now now)
      (reports (name :: "--base-version" :: baseVersion :: "--suffix" :: suffix :: words) w)
      (reports (name :: words) { w with env := w.env.withTexts baseVersion suffix, now := now }) := by
  have hlogs := w.env.text_withTexts baseVersion suffix Environment.logDirectory (by decide) (by decide)
  refine sameAnswer_of_matches hname (World.matches_of_env hlogs now) ?_
  have hfront : sorted name ("--base-version" :: baseVersion :: "--suffix" :: suffix :: words) =
      withSettings [(.baseVersion, baseVersion), (.suffix, suffix)] (sorted name words) := by
    show sorted name (("--" ++ "base-version") :: baseVersion :: ("--" ++ "suffix") :: suffix :: words) = _
    rw [sorted_long rfl rfl (by decide) (by decide), sorted_long rfl rfl (by decide) (by decide), withSettings_append]
    rfl
  refine demand_of_front hfront (withSettings_nil _).symm fun given arguments hsorted => ?_
  have hnobase := (without_iff hsorted).1 hbase
  have hnosuffix := (without_iff hsorted).1 hsuffix
  rw [List.cons_append, List.cons_append, List.nil_append, ResolveOptions.ofSettings_texts hnobase hnosuffix]
  refine ⟨rfl, ResolveOptions.plan_withTexts ?_ ?_ htrim hne htrim' w now⟩
  · rw [ResolveOptions.ofSettings_eq]
    exact lastValue?_of_without hsorted hbase
  · rw [ResolveOptions.ofSettings_eq]
    exact lastValue?_of_without hsorted hsuffix

/-! ## A release without a suffix -/

open World

/-- The release is printed without a suffix, be that given by an option in front or by a variable. -/
theorem release_without_suffix :
    Without .baseVersion "print-version" ["--release"] ∧ Without .suffix "print-version" ["--release"] ∧
      ∃ r r',
        reports ["print-version", "--base-version", "1.2", "--suffix", "", "--release"] (describedAs "v1-5-gbeef") =
          .ok r ∧
        reports ["print-version", "--release"]
          { describedAs "v1-5-gbeef" with
            env := [(Environment.baseVersion, "1.2"), (Environment.suffix, "")], now := .utc 86400 } = .ok r' ∧
        r.result = .ok .success ∧ r.output = "1.2\n" ∧ r'.result = .ok .success ∧ r'.output = "1.2\n" := by
  have hsorted : sorted "print-version" ["--release"] = .ok ([(.release, "")], []) := by
    simp [sorted, sort, shape, cutValue, withSettings, ResolveOption.all, ResolveOption.long?, ResolveOption.takesValue]
  have hbase : Without .baseVersion "print-version" ["--release"] := (without_iff hsorted).2 rfl
  have hsuffix : Without .suffix "print-version" ["--release"] := (without_iff hsorted).2 rfl
  have hsame := options_or_variables (by decide) hbase hsuffix (show Text.trim "1.2" = "1.2" by decide) (by decide)
    (show Text.trim "" = "" by decide) (describedAs "v1-5-gbeef") (.utc 86400)
  have hgiven : sorted "print-version" ["--base-version", "1.2", "--suffix", "", "--release"] =
      .ok ([(.baseVersion, "1.2"), (.suffix, ""), (.release, "")], []) := by
    simp [sorted, sort, shape, cutValue, withSettings, ResolveOption.all, ResolveOption.long?, ResolveOption.takesValue]
  have hreports := reports_printVersion hgiven (describedAs "v1-5-gbeef")
  obtain ⟨r', hr', hagrees⟩ := hsame.ok hreports
  obtain ⟨checkout, hcheckout⟩ : ∃ checkout, Checkout.locate (describedAs "v1-5-gbeef") "/" = .ok checkout := ⟨_, rfl⟩
  obtain ⟨hdone, hprinted⟩ := printVersion_of_described "v1-5-gbeef" (by decide) (by decide) rfl
    (Resolver.nulFree_env_describedAs "v1-5-gbeef") Settings.ofEnvironment_nil
    (o := .ofSettings [(.baseVersion, "1.2"), (.suffix, ""), (.release, "")]) hcheckout
    (show _ = (⟨"1.2", "", .release, "", "1.2", none⟩ : VersionInfo) from rfl) (by decide)
  have hplain : Console.plain "1.2" ++ "\n" = "1.2\n" := by decide
  exact ⟨hbase, hsuffix, _, r', hreports, hr', hdone, hprinted.trans hplain,
    hagrees.result.symm.trans hdone, hagrees.output.symm.trans (hprinted.trans hplain)⟩

end CommandLine
end VersionStamp
