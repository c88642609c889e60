import CallPolicy.Command.Failure
import CallPolicy.Command.Host
import CallPolicy.Configuration
import CallPolicy.Path.Text

namespace CallPolicy

/-!
# Finding and loading the configuration

* `locateConfig` — the configuration file of a project.
* `loadSetup` — the settings and rules of a run.
-/

/-- Names of configuration files in a project, the preferred one first. -/
def projectConfigNames : List String := ["disallowed.toml", ".disallowed.toml"]

/-- The name of the configuration file in the global directory. -/
def globalConfigName : String := "config.toml"

/-- The name `name` in the directory `dir`. -/
def inDirectory (dir name : String) : String :=
  String.ofList (Path.joinText dir.toList name.toList)

/-- The project directory, taken from the working directory. -/
def Environment.projectDir (env : Environment) (project : String) : String :=
  inDirectory env.workDir project

/-- The directory of the global configuration. -/
def Environment.globalDir? (env : Environment) : Option String :=
  match env.configDir with
  | some dir => some dir
  | none => env.home.map (inDirectory · ".disallowed")

/-- The places in a project where a configuration may be, nearest first. -/
def projectCandidates (projectDir : String) : List String :=
  (Path.ancestorTexts projectDir.toList).flatMap fun dir =>
    projectConfigNames.map (inDirectory (String.ofList dir))

section

variable {m : Type → Type} [Monad m]

/-- The first of some places where a file is. -/
def Host.findFile? (host : Host m) : List String → m (Option String)
  | [] => pure none
  | path :: rest => do
    if ← host.isFile path then pure (some path) else host.findFile? rest

/-- The configuration file: the one given, or else the nearest of the project, or else the
global one. -/
def locateConfig (env : Environment) (host : Host m) (explicit : Option String)
    (project : String) : m (Option String) :=
  match explicit with
  | some path => pure (some path)
  | none =>
    let inGlobal := env.globalDir?.toList.map (inDirectory · globalConfigName)
    host.findFile? (projectCandidates (env.projectDir project) ++ inGlobal)

/-- The settings and rules of a run. The root of the settings is absolute. -/
structure Setup where
  settings : Settings
  rules : RuleSet
  deriving DecidableEq

/-- The root of a configuration file, taken from the directory of the file. -/
def rootFrom (configPath root : String) : String :=
  match Path.parentText? configPath.toList with
  | some dir => inDirectory (String.ofList dir) root
  | none => root

/-- The settings with the root `root`, taken from the working directory, and the rules of the
configuration `text`, anchored there. -/
def setupAt (env : Environment) (settings : Settings) (root text : String) :
    Except Failure Setup :=
  let projectRoot := ProjectRoot.locate env.workDir root
  match loadRules projectRoot text with
  | .ok rules =>
    .ok { settings := { engine := { settings.engine with root := projectRoot.toString } }, rules }
  | .error e => .error ⟨"Failed to load rules", e.causes⟩

/-- The setup of a configuration file with the given text. `root` overrides the root that it
names. -/
def setupOf (env : Environment) (path text : String) (root : Option String) :
    Except Failure Setup :=
  match loadSettings? text with
  | none =>
    .error ⟨s!"Failed to load config: {path}",
      ["Failed to parse config: TOML parse error: malformed document"]⟩
  | some settings => setupAt env settings (root.getD (rootFrom path settings.engine.root)) text

/-- The setup of the configuration file `source`, or without one. -/
def loadSetup (env : Environment) (host : Host m) (source root : Option String) :
    m (Except Failure Setup) :=
  match source with
  | none => pure (setupAt env .initial (root.getD Settings.initial.engine.root) "")
  | some path => do
    match ← host.readText path with
    | .ok text => pure (setupOf env path text root)
    | .error fault =>
      pure (.error ⟨s!"Failed to load config: {path}",
        [s!"Failed to read config file {path}: {fault.message}", fault.message]⟩)

end

end CallPolicy
