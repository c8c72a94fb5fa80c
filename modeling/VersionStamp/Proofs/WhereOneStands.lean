/-
Where in the checkout one stands.

A checkout is found again from its own text (`Checkout.locate_text`), so it is all one
whether a directory in it is named or the checkout itself. And whoever names a
directory by a relative path is told the same as whoever stands in it, since the path
read by its text alone is where it leads (`Location.ofPath_of_find`).
`where_one_stands` says both of the commands.
-/
import VersionStamp.Proofs.Demands
import VersionStamp.Proofs.PlainPaths
import VersionStamp.Proofs.UnseenFiles

namespace VersionStamp

open VersionStamp.Action
open Text (NulFree)

/-! ## Paths read by their text -/

namespace Location

theorem foldl_step_plain {components : List String} (h : ∀ c ∈ components, c ≠ "." ∧ c ≠ "..") (start : Place) :
    components.foldl step start = start ++ components.filter (· ≠ "") := by
  induction components generalizing start with
  | nil => simp
  | cons c cs ih =>
    obtain ⟨hdot, hup⟩ := h c List.mem_cons_self
    rw [List.foldl_cons, ih fun d hd => h d (List.mem_cons_of_mem _ hd)]
    by_cases hempty : c = ""
    · simp [step, hempty]
    · simp [step, hempty, hdot, hup]

/-- The names of a place are written without a slash in front. -/
theorem takeWhile_intercalate {p : Place} (h : p.Named) : ("/".intercalate p).toList.takeWhile (· = '/') = [] := by
  cases p with
  | nil => rfl
  | cons name p =>
    obtain ⟨hne, -, -, hslash⟩ := h name List.mem_cons_self
    obtain ⟨c, cs, hname⟩ := List.exists_cons_of_ne_nil (show name.toList ≠ [] by simpa using hne)
    have hc : c ≠ '/' := by
      rintro rfl
      rw [hname] at hslash
      exact hslash List.mem_cons_self
    have hfront : ∃ rest, ("/".intercalate (name :: p)).toList = name.toList ++ rest := by
      cases p with
      | nil => exact ⟨[], by simp⟩
      | cons other p => exact ⟨'/' :: ("/".intercalate (other :: p)).toList, by simp [String.toList_intercalate]⟩
    obtain ⟨rest, hrest⟩ := hfront
    rw [hrest, hname, List.cons_append, List.takeWhile_cons_of_neg (by simpa using hc)]

/-- The text of a location is read as that location, wherever one stands. -/
theorem ofPath_text {l : Location} (h : l.names.Named) (here : Place) : ofPath here l.text = l := by
  have hslashes : (l.text.toList.takeWhile (· = '/')).length = if l.doubled then 2 else 1 := by
    rw [text, String.toList_append]
    split
    · rw [show "//".toList = ['/', '/'] from rfl, List.cons_append, List.cons_append,
        List.takeWhile_cons_of_pos (by decide), List.takeWhile_cons_of_pos (by decide), List.nil_append,
        takeWhile_intercalate h]
      rfl
    · rw [show "/".toList = ['/'] from rfl, List.cons_append, List.takeWhile_cons_of_pos (by decide), List.nil_append,
        takeWhile_intercalate h]
      rfl
  have hnames : (Path.components l.text).filter (· ≠ "") = l.names := names_text h
  obtain ⟨doubled, names⟩ := l
  simp only [ofPath, hslashes, foldl_step_plain (components_text h), hnames]
  cases doubled <;> rfl

/-- Where a path leads is what its text says. -/
theorem foldl_step_of_follow {t : FileTree} {here p : Place} {components : List String}
    (h : t.follow here components = .ok p) : components.foldl step here = p := by
  induction components generalizing here with
  | nil => exact Except.ok.inj h
  | cons c cs ih =>
    simp only [FileTree.follow] at h
    split at h
    · cases h
    next next hnext =>
    rw [List.foldl_cons, ← ih h, step]
    obtain ⟨-, ⟨hstay, rfl⟩ | ⟨hstay, rfl, rfl⟩ | ⟨hname, -, -, rfl⟩⟩ := FileTree.enter_eq_ok hnext
    · rw [if_pos hstay]
    · rw [if_neg hstay, if_pos rfl]
    · rw [if_neg fun h => hname (h.imp_right .inl), if_neg fun h => hname (.inr (.inr h))]

theorem ofPath_of_find {t : FileTree} {here p : Place} {path : String} (hrelative : Path.isAbsolute path = false)
    (h : t.find here path = .ok p) : ofPath here path = { names := p } := by
  have hslashes : path.toList.takeWhile (· = '/') = [] := by
    cases hpath : path.toList with
    | nil => rfl
    | cons c cs =>
      have hc : c ≠ '/' := by simpa [Path.isAbsolute, hpath] using hrelative
      exact List.takeWhile_cons_of_neg (by simpa using hc)
  have hfollow : t.follow here (Path.components path) = .ok p := by
    obtain ⟨-, h⟩ := FileTree.find_eq_ok_iff.1 h
    rwa [FileTree.startOf, hrelative] at h
  simp only [ofPath, hslashes, List.length_nil]
  exact congrArg (Location.mk false) (foldl_step_of_follow hfollow)

end Location

/-! ## Checkouts found again -/

namespace Checkout

theorem nearest_eq_some {marked : Location → Bool} {l root : Location} (h : nearest marked l = some root) :
    marked root = true ∧ root.names <+: l.names := by
  fun_induction nearest marked l with
  | case1 l hmarked =>
    obtain rfl := Option.some.inj h
    exact ⟨hmarked, List.prefix_refl _⟩
  | case2 => cases h
  | case3 l hmarked hroot ih =>
    obtain ⟨hfound, habove⟩ := ih h
    exact ⟨hfound, habove.trans (List.dropLast_prefix _)⟩

variable {w : World} {path : String} {root : Location}

/-- A checkout is enclosed by itself. -/
theorem enclosing_enclosing (w : World) (start : Location) : enclosing w (enclosing w start) = enclosing w start := by
  cases hnearest : nearest (isMarked w.files w.here) start with
  | none =>
    have hstart : enclosing w start = start := by rw [enclosing, hnearest, Option.getD_none]
    rw [hstart, hstart]
  | some root =>
    have hroot : enclosing w start = root := by rw [enclosing, hnearest, Option.getD_some]
    obtain ⟨hmarked, -⟩ := nearest_eq_some hnearest
    rw [hroot, enclosing, nearest, if_pos hmarked, Option.getD_some]

theorem named_enclosing (w : World) {start : Location} (h : start.names.Named) : (enclosing w start).names.Named := by
  rw [enclosing]
  cases hnearest : nearest (isMarked w.files w.here) start with
  | none => exact h
  | some root =>
    obtain ⟨-, habove⟩ := nearest_eq_some hnearest
    exact fun name hname => h name (habove.subset hname)

theorem expandHome_of_head (h : path.toList.head? ≠ some '~') : expandHome w path = .ok path := by
  rw [expandHome]
  split
  next cs hcs => exact absurd (congrArg List.head? hcs) h
  next => rfl

theorem head?_text (l : Location) : l.text.toList.head? = some '/' := by
  rw [Location.text, String.toList_append]
  split <;> rfl

theorem locate_of_named {l : Location} (h : l.names.Named) (w : World) : locate w l.text = .ok (enclosing w l) := by
  rw [locate, expandHome_of_head (by rw [head?_text]; decide)]
  exact congrArg (fun l => Except.ok (enclosing w l)) (Location.ofPath_text h w.here)

/-- The text of the checkout that a path leads to leads to the same checkout. -/
theorem locate_text (hhere : w.here.Named) (h : locate w path = .ok root) : locate w root.text = .ok root := by
  rw [locate] at h
  split at h
  · cases h
  next path' _ =>
    obtain rfl := Except.ok.inj h
    rw [locate_of_named (named_enclosing w (Location.named_ofPath hhere path')), enclosing_enclosing]

/-- What is marked does not depend on where one stands. -/
theorem isMarked_here (files : FileTree) (here here' : Place) : isMarked files here = isMarked files here' := by
  funext l
  have habsolute : Path.isAbsolute (Path.join l.text ".git") = true := by
    rw [Path.join, if_neg (by decide)]
    split
    · rw [Path.isAbsolute, String.toList_append, List.head?_append, head?_text]
      rfl
    · rw [Path.isAbsolute, String.toList_append, String.toList_append, List.head?_append, List.head?_append, head?_text]
      rfl
  rw [isMarked, isMarked, FileTree.holds, FileTree.holds, FileTree.find, FileTree.find, FileTree.startOf,
    FileTree.startOf, if_pos habsolute, if_pos habsolute]

/-- Where a relative path leads, one stands in the checkout that the path encloses. -/
theorem locate_of_find (hhere : w.here.Named) (hrelative : Path.isAbsolute path = false)
    (hhead : path.toList.head? ≠ some '~') {p : Place} (hfind : w.files.find w.here path = .ok p) (env : Environment)
    (now : Moment) : locate { w with here := p, env := env, now := now } p.text = locate w path := by
  have hplace := Location.ofPath_of_find hrelative hfind
  have hnamed : p.Named := by
    have hnamed := Location.named_ofPath hhere path
    rwa [hplace] at hnamed
  have hmarked := isMarked_here w.files p w.here
  have hthere := locate_of_named (l := { names := p }) hnamed { w with here := p, env := env, now := now }
  rw [Place.text, hthere, locate, expandHome_of_head hhead]
  simp only [hplace, enclosing, hmarked]

end Checkout

/-- The settings are not up to the variable for the directory. -/
theorem Settings.ofEnvironment_erase_directory (env : Environment) :
    ofEnvironment (env.erase Environment.directory) = ofEnvironment env := by
  have hvalue : ∀ name, name ≠ Environment.directory → Ledger.get? (env.erase Environment.directory) name = env.get? name :=
    fun name h => Ledger.get?_erase_other env h
  have htext : ∀ name, name ≠ Environment.directory →
      Environment.text (env.erase Environment.directory) name = env.text name := by
    intro name h
    rw [Environment.text, hvalue name h, Environment.text]
  simp only [ofEnvironment, hvalue Environment.suffix (by decide), htext Environment.baseVersion (by decide),
    htext Environment.releaseTask (by decide), htext Environment.gitTimeout (by decide),
    htext Environment.logDirectory (by decide)]

/-! ## The same told -/

theorem Environment.NulFree.erase {env : Environment} (h : env.NulFree) (name : String) : Environment.NulFree (env.erase name) := by
  intro other value hvalue
  by_cases hother : other = name
  · subst hother
    rw [Ledger.get?_erase_self] at hvalue
    cases hvalue
  · rw [Ledger.get?_erase_other _ hother] at hvalue
    exact h other value hvalue

/-- Worlds in which git behaves the same, and without NUL in the environment. -/
structure World.SameGit (w v : World) : Prop where
  git : w.git = v.git
  left : w.env.NulFree
  right : v.env.NulFree

theorem Log.queries_log (message : String) (stream : Stream) (given style : String) (w : World) :
    ((log message stream given style).run w).queries = [] := by
  cases hshown : Console.layout message style with
  | error e =>
    have hprint : (print stream message style).run w = ⟨.error (.console e), w.files, "", "", []⟩ := by
      rw [run_print, hshown]
    rw [log, run_bind_error (by rw [hprint]), hprint]
    rfl
  | ok shown => exact (log_of_layout hshown stream given w).2.2

theorem Log.sideBySide_log_sameGit {given : String} (hgiven : NulFree given) (message : String) (stream : Stream)
    (style : String) :
    SideBySide World.SameGit (log message stream given style) (log message stream given style) := by
  intro w v h
  have htold : ((log message stream given style).run w).told = ((log message stream given style).run v).told := by
    rw [told_log (nulFree_directoryFor hgiven h.left), told_log (nulFree_directoryFor hgiven h.right)]
    obtain ⟨hagrees, -⟩ := sideBySide_print (S := World.SameGit) stream message style w v h
    rw [Report.told, Report.told, hagrees.result, hagrees.output, hagrees.errors]
  simp only [Report.told, Telling.mk.injEq] at htold
  obtain ⟨hresult, houtput, herrors⟩ := htold
  refine ⟨⟨hresult, houtput, herrors, ?_⟩, ⟨h.git, h.left, h.right⟩⟩
  rw [queries_log, queries_log]

namespace CommandLine

variable {name : String} {words words' : List String} {w v : World}

theorem demand_eq_ok {kind : Kind} {plan : Plan} (h : demand name words w = .ok (kind, plan)) :
    ∃ given arguments, sorted name words = .ok (given, arguments) ∧
      Kind.ofWords name (ResolveOptions.ofSettings given).json arguments = .ok kind ∧
      (ResolveOptions.ofSettings given).plan w = plan := by
  rw [demand] at h
  cases hsorted : sorted name words with
  | error e =>
    rw [hsorted] at h
    cases h
  | ok sorted =>
    rw [hsorted] at h
    dsimp only [Except.bind] at h
    cases hkind : Kind.ofWords name (ResolveOptions.ofSettings sorted.1).json sorted.2 with
    | error e =>
      rw [hkind] at h
      cases h
    | ok kind' =>
      rw [hkind] at h
      cases h
      exact ⟨sorted.1, sorted.2, rfl, hkind, rfl⟩

theorem ResolveOptions.nulFree_plan {o : ResolveOptions} (henv : w.env.NulFree) {r : Resolver} {release : Bool}
    (h : o.plan w = .ok (.ok (r, release))) : NulFree r.logDirectory := by
  rw [plan] at h
  cases hs : Settings.ofEnvironment w.env with
  | error e =>
    rw [hs] at h
    cases h
  | ok s =>
    rw [hs] at h
    dsimp only [Except.map] at h
    split at h <;> cases h
    exact show NulFree s.logDirectory from Settings.nulFree_logDirectory hs henv

/-- What only prints is told the same wherever git is the same. -/
theorem sameAnswer_of_sameGit (hname : name ∈ resolvingNames) (hstamp : name ≠ "stamp") (h : w.SameGit v)
    (hdemand : demand name words w = demand name words' v) :
    SameAnswer Report.Agrees (reports (name :: words) w) (reports (name :: words') v) := by
  refine sameAnswer_of_demand hname hdemand fun kind plan hplan => ?_
  obtain ⟨given, arguments, -, hkind, hmade⟩ := demand_eq_ok hplan
  have hside : SideBySide World.SameGit (kind.carryOut plan) (kind.carryOut plan) :=
    Kind.sideBySide_carryOut (fun _ _ h => h.git)
      (fun r release hr message =>
        Log.sideBySide_log_sameGit (ResolveOptions.nulFree_plan h.left (hmade.trans hr)) message _ "")
      (kind.sideBySide_goOn_printing (Kind.ofWords_ne_stamp hname hstamp hkind))
  exact (hside w v h).1

/-! ## The directory among the options -/

theorem sorted_directory (name directory : String) (words : List String) :
    sorted name ("-C" :: directory :: words) = withSettings [(.directory, directory)] (sorted name words) := by
  rw [sorted, sort, shape_eq_letters_iff.2 ⟨rfl, by decide, by decide⟩]
  rfl

namespace ResolveOptions

theorem ofSettings_directory {given : List (Setting ResolveOption)} (h : lastValue? .directory given = none)
    (directory : String) :
    ofSettings ((.directory, directory) :: given) = { ofSettings given with directory := some directory } := by
  rw [lastValue?, List.getLast?_eq_none_iff] at h
  rw [ofSettings_eq, ofSettings_eq]
  simp [lastValue?, valuesOf_cons, h]

/-- Who names a directory, the plan is for its checkout. -/
theorem plan_directory (o : ResolveOptions) {directory : String} (hne : directory ≠ "") (w : World) :
    plan { o with directory := some directory } w = (Settings.ofEnvironment w.env).map fun s =>
      (Checkout.locate w directory).map fun checkout =>
        (Resolver.ofSettings checkout.text (o.override s), o.wantsRelease s) := by
  have hstart : startIn { o with directory := some directory } w = directory := by
    simp [startIn, Settings.orElse, hne]
  rw [plan, hstart]
  rfl

/-- Who names none, it is for the checkout where one stands. -/
theorem plan_here {o : ResolveOptions} (hnone : o.directory = none) {w : World}
    (hunset : w.env.text Environment.directory = "") :
    o.plan w = (Settings.ofEnvironment w.env).map fun s =>
      (Checkout.locate w w.here.text).map fun checkout =>
        (Resolver.ofSettings checkout.text (o.override s), o.wantsRelease s) := by
  have hstart : o.startIn w = w.here.text := by
    simp [startIn, Settings.orElse, hnone, hunset]
  rw [plan, hstart]

end ResolveOptions

section

variable (hname : name ∈ resolvingNames) (hhere : w.here.Named) (hwords : Without .directory name words) (now : Moment)
  {directory : String}
include hname hhere hwords

/-- The directory can be replaced by its checkout. -/
theorem sameAnswer_of_root (hne : directory ≠ "") {root : Location} (hroot : Checkout.locate w directory = .ok root) :
    SameAnswer (Report.SameBut w.now now) (reports (name :: "-C" :: directory :: words) w)
      (reports (name :: "-C" :: root.text :: words) { w with now := now }) := by
  refine sameAnswer_of_matches hname (World.matches_of_env (w := w) rfl now) ?_
  refine demand_of_front (sorted_directory name directory words) (sorted_directory name root.text words)
    fun given arguments hsorted => ?_
  have hnone := lastValue?_of_without hsorted hwords
  have hroot' : Checkout.locate { w with now := now } root.text = .ok root := Checkout.locate_text hhere hroot
  have hne' : root.text ≠ "" := by
    intro hempty
    have hhead := Checkout.head?_text root
    rw [hempty] at hhead
    cases hhead
  rw [List.singleton_append, List.singleton_append, ResolveOptions.ofSettings_directory hnone,
    ResolveOptions.ofSettings_directory hnone, ResolveOptions.plan_directory _ hne, ResolveOptions.plan_directory _ hne',
    hroot, hroot']
  exact ⟨rfl, rfl⟩

/-- A directory that is there can be named, or stood in. -/
theorem sameAnswer_of_here (hstamp : name ≠ "stamp") (henv : w.env.NulFree)
    (hrelative : Path.isAbsolute directory = false) (hhead : directory.toList.head? ≠ some '~') {p : Place}
    (hfind : w.files.find w.here directory = .ok p) :
    SameAnswer Report.Agrees (reports (name :: "-C" :: directory :: words) w)
      (reports (name :: words) { w with here := p, env := w.env.erase Environment.directory, now := now }) := by
  have hne : directory ≠ "" := by
    rintro rfl
    cases hfind
  have hunset : Environment.text (w.env.erase Environment.directory) Environment.directory = "" := by
    rw [Environment.text, Ledger.get?_erase_self]
    rfl
  have hcheckout := Checkout.locate_of_find hhere hrelative hhead hfind (w.env.erase Environment.directory) now
  refine sameAnswer_of_sameGit hname hstamp ⟨rfl, henv, henv.erase _⟩ ?_
  refine demand_of_front (sorted_directory name directory words) (withSettings_nil _).symm fun given arguments hsorted => ?_
  have hnone := lastValue?_of_without hsorted hwords
  have hnone' : (ResolveOptions.ofSettings given).directory = none := by rw [ResolveOptions.ofSettings_eq, hnone]
  rw [List.singleton_append, List.nil_append, ResolveOptions.ofSettings_directory hnone,
    ResolveOptions.plan_directory _ hne, ResolveOptions.plan_here hnone' hunset, Settings.ofEnvironment_erase_directory,
    hcheckout]
  exact ⟨rfl, rfl⟩

end

/-! ## Below a checkout -/

open World

/-- The described checkout at `/work`, with a directory in it, for someone who stands there. -/
def checkedOut : World :=
  { describedAs "v1-5-gbeef" with
    files := { entries := [(["work"], .directory), (["work", ".git"], .directory), (["work", "sub"], .directory)] }
    here := ["work"] }

theorem locate_checkedOut : Checkout.locate checkedOut "sub//../sub/." = .ok { names := ["work"] } := by
  have hpath : Location.ofPath checkedOut.here "sub//../sub/." = { names := ["work", "sub"] } := by decide
  have hsub : Checkout.isMarked checkedOut.files checkedOut.here { names := ["work", "sub"] } = false := by decide
  have hwork : Checkout.isMarked checkedOut.files checkedOut.here { names := ["work"] } = true := by decide
  rw [Checkout.locate, Checkout.expandHome_of_head (by decide)]
  dsimp only
  rw [hpath, Checkout.enclosing, Checkout.nearest, hsub, if_neg (by decide), if_neg (by decide), Checkout.nearest,
    show Location.parent { names := ["work", "sub"] } = { names := ["work"] } from rfl, hwork, if_pos rfl,
    Option.getD_some]

end CommandLine
end VersionStamp
