/-
What the words of a resolving command demand of a world.

It is a kind of command, a resolver, and whether to resolve a release
(`demand`), unless something is wrong with the words, the settings or the
directory. Nothing else of the words, of the environment and of where one stands
counts: where the demands are the same, the reports are related as much as the
worlds are (`sameAnswer_of_demand`), and in worlds that match they are the same but
for the moment (`sameAnswer_of_matches`).
-/
import VersionStamp.Proofs.GivenOptions
import VersionStamp.Proofs.OtherMoments
import VersionStamp.Proofs.Quiet

namespace VersionStamp

open VersionStamp.Action

/-- The same action in front, as far as this world is concerned. -/
theorem Action.run_bind_congr {α β : Type} {x y : Action α} {w : World} (h : x.run w = y.run w) (f : α → Action β) :
    (x >>= f).run w = (y >>= f).run w := by
  cases hresult : (y.run w).result with
  | ok a => rw [run_bind_ok hresult, run_bind_ok (h ▸ hresult), h]
  | error e => rw [run_bind_error hresult, run_bind_error (h ▸ hresult), h]

/-- Resolving without a word comes to the same wherever git does. -/
theorem Resolver.sideBySide_compute_sameGit {S : World → World → Prop} (hgit : ∀ w v, S w v → w.git = v.git)
    (r : Resolver) (release : Bool) : SideBySide S (r.compute release) (r.compute release) := by
  have hask : ∀ q, SideBySide S (ask q) (ask q) := fun q => sideBySide_ask fun w v h => by rw [hgit w v h]
  refine (hask _).bind fun branch => ?_
  cases release with
  | true => exact sideBySide_pure _
  | false => exact ((hask _).bind fun _ => sideBySide_pure _).bind fun _ => sideBySide_pure _

namespace CommandLine

/-! ## Kinds of commands -/

/-- A resolving command without its options. -/
inductive Kind
  | printVersion
  | resolve (json : Bool)
  | stamp (output : String)
  deriving DecidableEq, Repr

namespace Kind

/-- Where the summary is printed. -/
def stream : Kind → Stream
  | .printVersion => .errors
  | .resolve json => if json then .errors else .output
  | .stamp _ => .output

/-- What is done with the version once it is resolved. -/
def goOn : Kind → VersionInfo → Action ExitStatus
  | .printVersion, info => do
    Action.write .output (Console.plain info.displayVersion ++ "\n")
    return .success
  | .resolve json, info => do
    if json then
      Action.write .output (Json.ofInfo info ++ "\n")
    else
      Action.print .output ("  revision: " ++ Settings.orElse info.revision "(none)")
      Action.print .output ("  version:  " ++ info.displayVersion)
    return .success
  | .stamp output, info => do
    match ← Action.onFiles (Stamp.store info output) with
    | .error .embeddedNul => Action.fail (.file .embeddedNul)
    | .error e => complain ("cannot write " ++ output ++ ": " ++ e.message)
    | .ok path =>
      Log.log ("Wrote " ++ path) .output ""
      return .success

/-- The command of this kind with these options. -/
def command : Kind → ResolveOptions → Command
  | .printVersion, o => .printVersion o
  | .resolve json, o => .resolve { o with json := json }
  | .stamp output, o => .stamp output o

theorem perform_command (kind : Kind) (o : ResolveOptions) :
    (kind.command o).perform = o.resolving kind.stream kind.goOn := by
  cases kind <;> rfl

/-- To print does nothing else. -/
theorem sideBySide_goOn_printing {S : World → World → Prop} {kind : Kind} (h : ∀ output, kind ≠ .stamp output)
    (info : VersionInfo) : SideBySide S (kind.goOn info) (kind.goOn info) := by
  cases kind with
  | printVersion => exact (sideBySide_write _ _).bind fun _ => sideBySide_pure _
  | resolve json =>
    cases json with
    | true => exact (sideBySide_write _ _).bind fun _ => sideBySide_pure _
    | false =>
      exact (sideBySide_print _ _ _).bind fun _ => (sideBySide_print _ _ _).bind fun _ => sideBySide_pure _
  | stamp output => exact absurd rfl (h output)

theorem sideBySide_goOn {S : World → World → Prop} (hS : Resembling S) (kind : Kind) (info : VersionInfo) :
    SideBySide S (kind.goOn info) (kind.goOn info) := by
  cases kind with
  | printVersion | resolve => exact sideBySide_goOn_printing (fun _ => Kind.noConfusion) info
  | stamp output =>
    refine (hS.store info output).bind fun stored => ?_
    cases stored with
    | ok path => exact (hS.log _ _ _ _).bind fun _ => sideBySide_pure _
    | error e =>
      cases e with
      | embeddedNul => exact sideBySide_fail _
      | refused cause p => exact sideBySide_complain _

end Kind

/-! ## Plans -/

/-- A resolver, and whether to resolve a release; or what is wrong with the settings, or with the directory. -/
abbrev Plan := Except ConfigError (Except FileError (Resolver × Bool))

namespace ResolveOptions

/-- What the options come to in a world. -/
def plan (o : ResolveOptions) (w : World) : Plan :=
  (Settings.ofEnvironment w.env).map fun s =>
    (Checkout.locate w (o.startIn w)).map fun checkout =>
      (Resolver.ofSettings checkout.text (o.override s), o.wantsRelease s)

end ResolveOptions

namespace Kind

/-- Does what was planned. -/
def carryOut (kind : Kind) : Plan → Action ExitStatus
  | .error e => complain e.message
  | .ok (.error e) => Action.fail (.file e)
  | .ok (.ok (r, release)) => r.resolve release kind.stream >>= kind.goOn

/-- A command carries out the plan of its options. -/
theorem run_perform (kind : Kind) (o : ResolveOptions) (w : World) :
    (kind.command o).perform.run w = (kind.carryOut (o.plan w)).run w := by
  rw [perform_command, ResolveOptions.resolving, run_world_bind, ResolveOptions.plan]
  cases Settings.ofEnvironment w.env with
  | error e => rfl
  | ok s =>
    have hrun := o.resolveWith_run s kind.stream w
    cases hcheckout : Checkout.locate w (o.startIn w) with
    | error e =>
      rw [hcheckout] at hrun
      have hfault : (o.resolveWith s kind.stream).run w = (fail (.file e) : Action VersionInfo).run w := hrun
      exact (run_bind_congr hfault _).trans (run_fail_bind _ _ _)
    | ok checkout =>
      rw [hcheckout] at hrun
      exact run_bind_congr hrun _

variable {S : World → World → Prop} {kind : Kind} {plan : Plan}

/-- A plan is carried out the same wherever git, the log, and what is done in the end, are the same. -/
theorem sideBySide_carryOut (hgit : ∀ w v, S w v → w.git = v.git)
    (hlog : ∀ r release, plan = .ok (.ok (r, release)) → ∀ message,
      SideBySide S (Log.log message kind.stream r.logDirectory) (Log.log message kind.stream r.logDirectory))
    (hgo : ∀ info, SideBySide S (kind.goOn info) (kind.goOn info)) :
    SideBySide S (kind.carryOut plan) (kind.carryOut plan) := by
  rcases plan with e | e | ⟨r, release⟩
  · exact sideBySide_complain _
  · exact sideBySide_fail _
  · refine ((Resolver.sideBySide_compute_sameGit hgit r release).bind fun info => ?_).bind hgo
    exact (hlog r release rfl info.summary).bind fun _ => sideBySide_pure _

end Kind

/-! ## Demands -/

/-- The commands that resolve a version. -/
def resolvingNames : List String := ["print-version", "resolve", "stamp"]

/-- The kind of command that a name calls for, with these arguments behind it. -/
def Kind.ofWords (name : String) (json : Bool) (arguments : List String) : Except UsageError Kind :=
  if name = "print-version" then (noArgument arguments).map fun _ => .printVersion
  else if name = "resolve" then (noArgument arguments).map fun _ => .resolve json
  else (oneArgument "OUTPUT" arguments).map .stamp

/-- The options and the arguments among the words of a resolving command. -/
def sorted (name : String) (words : List String) : Except UsageError (List (Setting ResolveOption) × List String) :=
  sort (ResolveOption.all (name = "resolve")) true words

/-- What a resolving command with these words demands of a world. -/
def demand (name : String) (words : List String) (w : World) : Except UsageError (Kind × Plan) :=
  (sorted name words).bind fun (given, arguments) =>
    (Kind.ofWords name (ResolveOptions.ofSettings given).json arguments).map fun kind =>
      (kind, (ResolveOptions.ofSettings given).plan w)

/-- The report on a command line, or what is wrong with its words. -/
def reports (words : List String) (w : World) : Except UsageError (Report ExitStatus) :=
  (run words).map fun act => act.run w

variable {name : String} {words words' : List String} {w v : World}

theorem parse_of_sorted (hname : name ∈ resolvingNames) (words : List String) :
    Command.parse name words = (sorted name words).bind fun (given, arguments) =>
      (Kind.ofWords name (ResolveOptions.ofSettings given).json arguments).map fun kind =>
        kind.command (ResolveOptions.ofSettings given) := by
  have hcases : name = "print-version" ∨ name = "resolve" ∨ name = "stamp" := by simpa [resolvingNames] using hname
  rcases hcases with rfl | rfl | rfl
  · have hsorted : sorted "print-version" words = sort (ResolveOption.all false) true words := by simp [sorted]
    have hkind : Kind.ofWords "print-version" = fun _ arguments => (noArgument arguments).map fun _ => .printVersion := by
      funext json arguments
      exact if_pos rfl
    rw [Command.parse, if_pos rfl, resolveWords, hsorted, hkind]
    rcases sort (ResolveOption.all false) true words with e | ⟨given, _ | ⟨word, arguments⟩⟩ <;> rfl
  · have hsorted : sorted "resolve" words = sort (ResolveOption.all true) true words := by simp [sorted]
    have hkind : Kind.ofWords "resolve" = fun json arguments => (noArgument arguments).map fun _ => .resolve json := by
      funext json arguments
      rw [Kind.ofWords, if_neg (by decide), if_pos rfl]
    rw [Command.parse, if_neg (by decide), if_pos rfl, resolveWords, hsorted, hkind]
    rcases sort (ResolveOption.all true) true words with e | ⟨given, _ | ⟨word, arguments⟩⟩ <;> rfl
  · have hsorted : sorted "stamp" words = sort (ResolveOption.all false) true words := by simp [sorted]
    have hkind : Kind.ofWords "stamp" = fun _ arguments => (oneArgument "OUTPUT" arguments).map .stamp := by
      funext json arguments
      rw [Kind.ofWords, if_neg (by decide), if_neg (by decide)]
    rw [Command.parse, if_neg (by decide), if_neg (by decide), if_pos rfl, resolveWords, hsorted, hkind]
    rcases sort (ResolveOption.all false) true words with e | ⟨given, _ | ⟨word, _ | ⟨other, arguments⟩⟩⟩ <;> rfl

/-- What the words of a resolving command come to. -/
theorem run_eq_ok (hname : name ∈ resolvingNames) {act : Action ExitStatus} (h : run (name :: words) = .ok act) :
    ∃ given arguments kind, sorted name words = .ok (given, arguments) ∧
      Kind.ofWords name (ResolveOptions.ofSettings given).json arguments = .ok kind ∧
      act = (kind.command (.ofSettings given)).perform := by
  rw [run, parse_command (List.dropLast_subset Command.names hname), parse_of_sorted hname] at h
  rcases hsorted : sorted name words with e | ⟨given, arguments⟩ <;> rw [hsorted] at h
  · cases h
  dsimp only [Except.bind] at h
  rcases hkind : Kind.ofWords name (ResolveOptions.ofSettings given).json arguments with e | kind <;> rw [hkind] at h
  · cases h
  · exact ⟨given, arguments, kind, rfl, hkind, (Except.ok.inj h).symm⟩

/-- A command of another name does not stamp. -/
theorem Kind.ofWords_ne_stamp (hname : name ∈ resolvingNames) (hstamp : name ≠ "stamp") {json : Bool}
    {arguments : List String} {kind : Kind} (h : Kind.ofWords name json arguments = .ok kind) (output : String) :
    kind ≠ .stamp output := by
  have hcases : name = "print-version" ∨ name = "resolve" := by simpa [resolvingNames, hstamp] using hname
  rintro rfl
  rcases hcases with rfl | rfl
  · rw [Kind.ofWords, if_pos rfl] at h
    rcases arguments with _ | ⟨word, arguments⟩ <;> cases h
  · rw [Kind.ofWords, if_neg (by decide), if_pos rfl] at h
    rcases arguments with _ | ⟨word, arguments⟩ <;> cases h

/-- A resolving command reports on what is demanded of the world. -/
theorem reports_eq (hname : name ∈ resolvingNames) (words : List String) (w : World) :
    reports (name :: words) w = (demand name words w).map fun (kind, plan) => (kind.carryOut plan).run w := by
  have hmem : name ∈ Command.names := List.dropLast_subset Command.names hname
  rw [reports, run, parse_command hmem, parse_of_sorted hname, demand]
  rcases sorted name words with e | ⟨given, arguments⟩
  · rfl
  dsimp only [Except.bind]
  rcases Kind.ofWords name (ResolveOptions.ofSettings given).json arguments with e | kind
  · rfl
  · simp only [Except.map, Invocation.perform, kind.run_perform]

theorem reports_printVersion {given : List (Setting ResolveOption)} (h : sorted "print-version" words = .ok (given, []))
    (w : World) : reports ("print-version" :: words) w = .ok ((printVersion (.ofSettings given)).run w) := by
  have hspells : Spells (ResolveOption.all false) given [] words := spells_of_sort (by simpa [sorted] using h)
  rw [reports, run, parse_printVersion hspells]
  rfl

/-- The same is wrong with the words, or there are two reports that are related. -/
inductive SameAnswer (R : Report ExitStatus → Report ExitStatus → Prop) :
    Except UsageError (Report ExitStatus) → Except UsageError (Report ExitStatus) → Prop
  | wrong (e : UsageError) : SameAnswer R (.error e) (.error e)
  | told {r r' : Report ExitStatus} : R r r' → SameAnswer R (.ok r) (.ok r')

theorem SameAnswer.ok {R : Report ExitStatus → Report ExitStatus → Prop} {x y : Except UsageError (Report ExitStatus)}
    {r : Report ExitStatus} (h : SameAnswer R x y) (hx : x = .ok r) : ∃ r', y = .ok r' ∧ R r r' := by
  cases h with
  | wrong e => cases hx
  | told hr =>
    obtain rfl := Except.ok.inj hx
    exact ⟨_, rfl, hr⟩

/-- Where the demands are the same, the answers compare as the plan does when it is carried out. -/
theorem sameAnswer_of_demand {R : Report ExitStatus → Report ExitStatus → Prop} (hname : name ∈ resolvingNames)
    (hdemand : demand name words w = demand name words' v)
    (hR : ∀ kind plan, demand name words w = .ok (kind, plan) →
      R ((kind.carryOut plan).run w) ((kind.carryOut plan).run v)) :
    SameAnswer R (reports (name :: words) w) (reports (name :: words') v) := by
  rw [reports_eq hname, reports_eq hname, ← hdemand]
  cases h : demand name words w with
  | error e => exact .wrong e
  | ok demanded => exact .told (hR demanded.1 demanded.2 h)

/-! ### Settings in front of others -/

theorem withSettings_nil {ω : Type} (x : Except UsageError (List (Setting ω) × List String)) :
    withSettings [] x = x := by
  rcases x with e | ⟨given, arguments⟩ <;> rfl

theorem withSettings_append {ω : Type} (front front' : List (Setting ω))
    (x : Except UsageError (List (Setting ω) × List String)) :
    withSettings front (withSettings front' x) = withSettings (front ++ front') x := by
  rcases x with e | ⟨given, arguments⟩
  · rfl
  · simp only [withSettings, List.append_assoc]

theorem sorted_long {opt : ResolveOption} {long : String} (hopt : (ResolveOption.all (name = "resolve")).long long = some opt)
    (htakes : opt.takesValue = true) (hne : long ≠ "") (hlong : '=' ∉ long.toList) (value : String)
    (words : List String) :
    sorted name (("--" ++ long) :: value :: words) = withSettings [(opt, value)] (sorted name words) := by
  have htakes' : (ResolveOption.all (name = "resolve")).takesValue opt = true := htakes
  simp only [sorted, sort, shape_eq_long_none_iff.2 ⟨rfl, hne, hlong⟩, hopt, htakes', if_true]

/-- Other settings in front of the same words make no difference if they come to the same kind and the same plan. -/
theorem demand_of_front {front front' : List (Setting ResolveOption)} {rest : List String}
    (hsorted : sorted name words = withSettings front (sorted name rest))
    (hsorted' : sorted name words' = withSettings front' (sorted name rest))
    (hsame : ∀ given arguments, sorted name rest = .ok (given, arguments) →
      (ResolveOptions.ofSettings (front ++ given)).json = (ResolveOptions.ofSettings (front' ++ given)).json ∧
        (ResolveOptions.ofSettings (front ++ given)).plan w = (ResolveOptions.ofSettings (front' ++ given)).plan v) :
    demand name words w = demand name words' v := by
  rw [demand, demand, hsorted, hsorted']
  cases hrest : sorted name rest with
  | error e => simp only [withSettings, Except.bind]
  | ok sorted =>
    obtain ⟨hjson, hplan⟩ := hsame sorted.1 sorted.2 hrest
    simp only [withSettings, Except.bind, hjson, hplan]

/-! ### Words without an option -/

/-- No such option is among what the words spell. -/
def Without (opt : ResolveOption) (name : String) (words : List String) : Prop :=
  ∀ given arguments, sorted name words = .ok (given, arguments) → ∀ value, (opt, value) ∉ given

section

variable {opt : ResolveOption} {name : String} {words arguments : List String} {given : List (Setting ResolveOption)}
  (hsorted : sorted name words = .ok (given, arguments))
include hsorted

theorem without_iff : Without opt name words ↔ valuesOf opt given = [] := by
  rw [List.eq_nil_iff_forall_not_mem]
  constructor
  · exact fun h value hmem => h given arguments hsorted value (mem_valuesOf.1 hmem)
  · intro h given' arguments' hsorted' value hmem
    rw [hsorted] at hsorted'
    cases hsorted'
    exact h value (mem_valuesOf.2 hmem)

theorem lastValue?_of_without (h : Without opt name words) : lastValue? opt given = none := by
  rw [lastValue?, (without_iff hsorted).1 h]
  rfl

end

end CommandLine

/-! ## The same but for the moment -/

/-- Two reports that tell the same, on files that are the same but for the line of a stamp that tells the
moment. With one moment there is no such difference. -/
structure Report.SameBut {α : Type} (t t' : Moment) (r r' : Report α) : Prop extends r.Agrees r' where
  files : r.files.SameUpTo (Stamp.SameBut t t') r'.files

/-- Worlds that resemble each other, and in which git behaves the same. -/
structure World.Matches (w v : World) : Prop extends w.Resembles v where
  git : w.git = v.git

theorem resembling_matches : Resembling World.Matches where
  resembles h := h.toResembles
  withFiles h hfiles := { h with files := hfiles }

/-- The same world at another moment. -/
theorem World.matches_of_env {w : World} {env : Environment}
    (h : env.text Environment.logDirectory = w.env.text Environment.logDirectory) (now : Moment) :
    w.Matches { w with env := env, now := now } where
  logs := h.symm
  here := rfl
  files := .refl (fun _ => .inl rfl) w.files
  git := rfl

namespace CommandLine

variable {name : String} {words words' : List String} {w v : World}

/-- In worlds that match the same demands have the same answer. -/
theorem sameAnswer_of_matches (hname : name ∈ resolvingNames) (h : w.Matches v)
    (hdemand : demand name words w = demand name words' v) :
    SameAnswer (Report.SameBut w.now v.now) (reports (name :: words) w) (reports (name :: words') v) := by
  refine sameAnswer_of_demand hname hdemand fun kind plan _ => ?_
  have hside : SideBySide World.Matches (kind.carryOut plan) (kind.carryOut plan) :=
    Kind.sideBySide_carryOut (fun _ _ h => h.git) (fun r _ _ message => resembling_matches.log message _ r.logDirectory "")
      (kind.sideBySide_goOn resembling_matches)
  obtain ⟨hagrees, hafter⟩ := hside w v h
  exact { hagrees with files := hafter.files }

end CommandLine
end VersionStamp
