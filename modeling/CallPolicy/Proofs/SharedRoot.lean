import CallPolicy.Proofs.LoadedConditions
import CallPolicy.Proofs.NearestConfiguration
import CallPolicy.Proofs.Path.Joined

namespace CallPolicy

open Text

/-!
# One root for globs and files

The root of a run is located twice: once to anchor the globs of the rules, and once more by the
engine, from the text that the first one was written back as. The names of files are only compared
with the globs because both come out at the same place.

* `Rule.AnchoredAt` — all globs of a rule are anchored at a root.
* `anchoredAt_of_loadRules` — so are those of a configuration that is loaded there.
* `Environment.rootPath` — where the root of a run is.
* `setupAt_eq_ok` — what a setup is, and the root of its engine.
* `Setup.check` — what a check does once it is past loading.
* `run_check_root` — a check that gets there has its globs and its engine at this root.
-/

/-! ### Globs of rules -/

theorem PathGlob.text_of_compile {root : ProjectRoot} {text : String} {g : PathGlob}
    (h : compile root text = .ok g) : g.text = text := by
  unfold compile at h
  split at h
  · cases h
  · dsimp only at h
    split at h
    · cases h
      rfl
    · cases h

/-- The clause names no glob, or one that is anchored at the root. -/
def Clause.AnchoredAt (root : ProjectRoot) : Clause → Prop
  | .allowIn g | .allowExceptIn g => PathGlob.compile root g.text = .ok g
  | _ => True

theorem Clause.ReadAt.anchoredAt {root : ProjectRoot} {c : Clause} (h : c.ReadAt root) :
    c.AnchoredAt root := by
  cases c with
  | allowIn g | allowExceptIn g =>
    obtain ⟨text, hcompile⟩ := h
    obtain rfl := PathGlob.text_of_compile hcompile
    exact hcompile
  | _ => trivial

namespace Rule

/-- All globs of the rule are anchored at the root. -/
def AnchoredAt (root : ProjectRoot) (r : Rule) : Prop :=
  ∀ g ∈ r.allowIn ++ r.allowExceptIn, PathGlob.compile root g.text = .ok g

variable {root : ProjectRoot}

/-- One more clause that is anchored keeps the rule anchored. -/
theorem AnchoredAt.extend {r : Rule} (hr : r.AnchoredAt root) {c : Clause}
    (hc : c.AnchoredAt root) : (r.extend c).AnchoredAt root := by
  unfold AnchoredAt at hr ⊢
  rw [List.forall_mem_append] at hr ⊢
  cases c with
  | allowIn g =>
    refine ⟨?_, hr.2⟩
    exact List.forall_mem_append.2 ⟨hr.1, List.forall_mem_singleton.2 hc⟩
  | allowExceptIn g =>
    refine ⟨hr.1, ?_⟩
    exact List.forall_mem_append.2 ⟨hr.2, List.forall_mem_singleton.2 hc⟩
  | _ => exact hr

theorem AnchoredAt.foldl_extend {r : Rule} (hr : r.AnchoredAt root) {clauses : List Clause}
    (hclauses : ∀ c ∈ clauses, c.AnchoredAt root) :
    (clauses.foldl Rule.extend r).AnchoredAt root :=
  List.foldlRecOn clauses Rule.extend hr fun _ hs c hc => hs.extend (hclauses c hc)

end Rule

namespace RuleEntry

theorem anchoredAt_of_rule {root : ProjectRoot} {kind : RuleKind} {e : RuleEntry} {r : Rule}
    (h : e.rule root kind = .ok r) : r.AnchoredAt root := by
  obtain ⟨calls, clauses, hclauses, rfl⟩ := rule_eq_ok h
  have hblank : (Rule.blank kind).AnchoredAt root := nofun
  exact hblank.foldl_extend fun c hc => (readAt_of_readClauses hclauses c hc).anchoredAt

end RuleEntry

/-- The globs of a configuration are anchored at the root that it is loaded at. -/
theorem anchoredAt_of_loadRules {root : ProjectRoot} {text : String} {rules : RuleSet}
    (h : loadRules root text = .ok rules) : ∀ r ∈ rules.rules, r.AnchoredAt root := by
  intro r hr
  obtain ⟨e, kind, hrule⟩ := exists_rule_of_loadRules h hr
  exact e.anchoredAt_of_rule hrule

/-! ### The root of a run -/

namespace Environment

/-- The directory of a configuration file, taken from the working directory. -/
def dirOf (env : Environment) (configPath : String) : List Char :=
  Path.joinText env.workDir.toList ((Path.parentText? configPath.toList).getD [])

/-- Where the root of a run is: at the root that was asked for, taken from the working directory, or
else at the root in the settings, taken from the directory of the configuration file. -/
def rootPath (env : Environment) (source : Option String) (configured : String)
    (asked : Option String) : Path :=
  Path.spelled <|
    match asked, source with
    | some root, _ => Path.joinText env.workDir.toList root.toList
    | none, some configPath => Path.joinText (env.dirOf configPath) configured.toList
    | none, none => Path.joinText env.workDir.toList configured.toList

end Environment

/-- The root of a configuration file is in the directory of the file. -/
theorem toList_rootFrom (configPath root : String) :
    (rootFrom configPath root).toList =
      Path.joinText ((Path.parentText? configPath.toList).getD []) root.toList := by
  unfold rootFrom inDirectory
  cases Path.parentText? configPath.toList with
  | none =>
    show root.toList = Path.joinText [] root.toList
    unfold Path.joinText
    rw [List.isEmpty_nil, Bool.or_true, if_pos rfl]
  | some dir =>
    dsimp only
    rw [String.toList_ofList, String.toList_ofList]
    rfl

/-- The root that a run starts from, as a text. -/
def rootText (source : Option String) (configured : String) (asked : Option String) : String :=
  asked.getD <|
    match source with
    | some configPath => rootFrom configPath configured
    | none => configured

section

variable {env : Environment} (habsolute : isAbsolute env.workDir.toList = true)

include habsolute

/-- The root of a run is located where it is said to be. -/
theorem locate_rootText (source : Option String) (configured : String) (asked : Option String) :
    (ProjectRoot.locate env.workDir (rootText source configured asked)).path =
      env.rootPath source configured asked := by
  rw [ProjectRoot.locate_eq habsolute]
  cases asked with
  | some root => rfl
  | none =>
    cases source with
    | none => rfl
    | some configPath =>
      show Path.spelled (Path.joinText _ (rootFrom configPath configured).toList) =
        Path.spelled (Path.joinText (env.dirOf configPath) configured.toList)
      rw [toList_rootFrom, Path.spelled_joinText_assoc habsolute]
      rfl

/-- What a setup holds, and where the root of its engine is. -/
theorem setupAt_eq_ok {settings : Settings} {root text : String} {s : Setup}
    (h : setupAt env settings root text = .ok s) :
    (s.engine env).root = .locate env.workDir root ∧
      loadRules (s.engine env).root text = .ok (s.engine env).rules := by
  unfold setupAt at h
  dsimp only at h
  split at h
  · rename_i rules hrules
    cases h
    -- The engine locates the root once more, from the text of the first one.
    have hroot : (Setup.engine ⟨⟨{ settings.engine with
        root := (ProjectRoot.locate env.workDir root).toString }⟩, rules⟩ env).root =
        .locate env.workDir root :=
      ProjectRoot.locate_toString habsolute root
    refine ⟨hroot, ?_⟩
    rw [hroot]
    exact hrules
  · cases h

end

/-! ### Checks that are past loading -/

/-- What a check does once it is past loading. -/
def Setup.check {m : Type → Type} [Monad m] (s : Setup) (env : Environment) (host : Host m)
    (options : CheckOptions) : m Outcome := do
  match ← readCalls host options.calls with
  | .error f => pure (.failed f)
  | .ok text =>
    match readCallSites text with
    | .error e => pure (.failed ⟨"Failed to parse call sites", e.causes⟩)
    | .ok calls => pure (s.outcome env options calls)

namespace FileTree

/-- What the configuration file of a run says, or what holds in a run without one. -/
inductive Reads (t : FileTree) (env : Environment) : Option String → String → Settings → Prop
  | file {path text : String} {settings : Settings} (hread : t.readText env.place path = .ok text)
    (hsettings : loadSettings? text = some settings) : Reads t env (some path) text settings
  | defaults : Reads t env none "" .initial

/-- The search for the configuration leaves the files as they are. -/
theorem exists_run_locateConfig (t : FileTree) (env : Environment) (input : String)
    (config : Option String) (project : String) :
    ∃ source, (locateConfig env (host env input) config project).run t = (source, t) := by
  cases config with
  | some path => exact ⟨some path, rfl⟩
  | none => exact ⟨_, run_locateConfig input project⟩

/-- Loading leaves the files as they are, and a setup comes from the text and the settings that were
read. -/
theorem exists_run_loadSetup (t : FileTree) (env : Environment) (input : String)
    (source asked : Option String) :
    ∃ loaded, (loadSetup env (host env input) source asked).run t = (loaded, t) ∧
      ∀ s, loaded = .ok s → ∃ text settings, t.Reads env source text settings ∧
        setupAt env settings (rootText source settings.engine.root asked) text = .ok s := by
  cases source with
  | none => exact ⟨_, rfl, fun s hs => ⟨"", .initial, .defaults, hs⟩⟩
  | some path =>
    have hread : ((host env input).readText path).run t = (t.readText env.place path, t) := rfl
    cases htext : t.readText env.place path with
    | error fault =>
      rw [htext] at hread
      exact ⟨_, run_bind_of_run_eq hread, nofun⟩
    | ok text =>
      rw [htext] at hread
      refine ⟨setupOf env path text asked, run_bind_of_run_eq hread, fun s hs => ?_⟩
      unfold setupOf at hs
      split at hs
      · cases hs
      · rename_i settings hsettings
        exact ⟨text, settings, .file htext hsettings, hs⟩

/-- **One root.** A check either fails while its configuration is loaded, or goes on with an engine
at the documented root, at which all globs of its rules were anchored. So does an engine that is
started at a root: it is where the globs of rules that are loaded there are anchored, however the
root is spelled. -/
theorem run_check_root {env : Environment} (habsolute : isAbsolute env.workDir.toList = true)
    {arguments : List String} {i : Invocation} {options : CheckOptions}
    (hparse : Invocation.parse arguments = .ok i) (hcheck : i.command = .check options)
    (t : FileTree) (input : String) :
    (∃ source loaded,
      (locateConfig env (host env input) i.config i.project).run t = (source, t) ∧
      (loadSetup env (host env input) source options.root).run t = (loaded, t) ∧
      (∀ f, loaded = .error f →
        (CallPolicy.run env (host env input) arguments).run t = (.failed f, t)) ∧
      ∀ s, loaded = .ok s →
        (CallPolicy.run env (host env input) arguments).run t =
          (s.check env (host env input) options).run t ∧
        ∃ text settings, t.Reads env source text settings ∧
          (s.engine env).root.path = env.rootPath source settings.engine.root options.root ∧
          loadRules (s.engine env).root text = .ok (s.engine env).rules ∧
          ∀ r ∈ (s.engine env).rules.rules, r.AnchoredAt (s.engine env).root) ∧
    ∀ root rules settings,
      (Engine.start env.workDir (some root) rules settings).root = .locate env.workDir root ∧
      ProjectRoot.locate env.workDir (ProjectRoot.locate env.workDir root).toString =
        .locate env.workDir root := by
  refine ⟨?_, fun root rules settings => ⟨rfl, ProjectRoot.locate_toString habsolute root⟩⟩
  obtain ⟨source, hsource⟩ := exists_run_locateConfig t env input i.config i.project
  obtain ⟨loaded, hload, hsetup⟩ := exists_run_loadSetup t env input source options.root
  have hrun : (CallPolicy.run env (host env input) arguments).run t =
      (checkCalls env (host env input) source options).run t := by
    unfold CallPolicy.run
    rw [hparse]
    show (runInvocation env (host env input) i).run t = _
    unfold runInvocation
    rw [hcheck]
    exact run_bind_of_run_eq hsource
  rw [hrun]
  refine ⟨source, loaded, hsource, hload, ?_, ?_⟩
  · rintro f rfl
    exact run_bind_of_run_eq hload
  · rintro s rfl
    refine ⟨run_bind_of_run_eq hload, ?_⟩
    obtain ⟨text, settings, hreads, hs⟩ := hsetup s rfl
    obtain ⟨hroot, hrules⟩ := setupAt_eq_ok habsolute hs
    refine ⟨text, settings, hreads, ?_, hrules, anchoredAt_of_loadRules hrules⟩
    rw [hroot, locate_rootText habsolute]

/-- A project beside the directory of its configuration. -/
def besideConfig : FileTree where
  files := [(["w".toList, "conf".toList, "disallowed.toml".toList],
    "[engine]\nroot = '..\\app/./src/..'\n\n[[disallowed-function-calls]]\nfunction = 'exec()'\n" ++
      "allow-in = ['bin/*.php']\n")]
  dirs := []

/-- The root in the configuration is found from a directory above, for the globs and the engine. -/
theorem run_check_root_besideConfig :
    ∃ s, (loadSetup (runningIn "/w") (host (runningIn "/w") "[]") (some "conf/disallowed.toml")
        none).run besideConfig = (.ok s, besideConfig) ∧
      (CallPolicy.run (runningIn "/w") (host (runningIn "/w") "[]")
        ["--config", "conf/disallowed.toml", "check"]).run besideConfig =
        (s.check (runningIn "/w") (host (runningIn "/w") "[]") ⟨none, .text, none, none⟩).run
          besideConfig ∧
      (s.engine (runningIn "/w")).root.path = ⟨true, ["w".toList, "app".toList]⟩ ∧
      s.rules.rules.map (·.allowIn.map (·.anchored)) = [["/w/app/bin/*.php"]] ∧
      ∀ r ∈ s.rules.rules, r.AnchoredAt (s.engine (runningIn "/w")).root := by
  have habsolute : isAbsolute (runningIn "/w").workDir.toList = true := by decide
  have hparse : Invocation.parse ["--config", "conf/disallowed.toml", "check"] =
      .ok ⟨false, some "conf/disallowed.toml", ".", .check ⟨none, .text, none, none⟩⟩ := by
    decide +kernel
  have hloads : (((loadSetup (runningIn "/w") (host (runningIn "/w") "[]")
      (some "conf/disallowed.toml") none).run besideConfig).1.toOption.map fun s : Setup =>
        s.rules.rules.map (·.allowIn.map (·.anchored))) = some [["/w/app/bin/*.php"]] := by
    decide +kernel
  obtain ⟨source, loaded, hsource, hload, -, hsetup⟩ :=
    (run_check_root habsolute hparse rfl besideConfig "[]").1
  obtain rfl : some "conf/disallowed.toml" = source := (Prod.mk.inj hsource).1
  rw [hload] at hloads
  cases loaded with
  | error f => cases hloads
  | ok s =>
    obtain ⟨hrun, text, settings, hreads, hroot, -, hanchored⟩ := hsetup s rfl
    refine ⟨s, hload, hrun, ?_, Option.some.inj hloads, hanchored⟩
    have hconfigured : ((besideConfig.readText (runningIn "/w").place
        "conf/disallowed.toml").toOption >>= loadSettings?).map (·.engine.root) =
        some "..\\app/./src/.." := by
      decide +kernel
    cases hreads with
    | file hread hsettings =>
      have hsame : settings.engine.root = "..\\app/./src/.." := by
        have hvalue : (loadSettings? text).map (·.engine.root) = some "..\\app/./src/.." := by
          rw [hread] at hconfigured
          exact hconfigured
        rw [hsettings] at hvalue
        exact Option.some.inj hvalue
      rw [hroot, hsame]
      decide +kernel

end FileTree

end CallPolicy
