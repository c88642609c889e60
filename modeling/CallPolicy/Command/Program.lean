import CallPolicy.Command.Invocation
import CallPolicy.Command.Listing
import CallPolicy.Command.Template
import CallPolicy.Command.Usage

namespace CallPolicy

/-!
# The program

* `checkCalls`, `listRules`, `initialise` — the commands.
* `run` — the outcome of the program for its arguments.
-/

/-- What the program prints, how it ends, and why it failed where it did. -/
structure Outcome where
  exitCode : Nat
  output : String
  failure : Option Failure
  deriving DecidableEq, Repr

namespace Outcome

def success (output : String) : Outcome := ⟨0, output, none⟩

def failed (f : Failure) : Outcome := ⟨1, "", some f⟩

end Outcome

/-- The program and its version. -/
def versionText : String := "disallowed 0.3.0\n"

def Stop.outcome : Stop → Outcome
  | usage => ⟨2, "", none⟩
  | help level atLength => .success (level.help atLength)
  | version => .success versionText

/-! ### Checking -/

/-- The engine of a setup. -/
def Setup.engine (s : Setup) (env : Environment) : Engine :=
  .start env.workDir none s.rules s.settings

/-- The report on call sites, and whether it fails the run. -/
def Setup.outcome (s : Setup) (env : Environment) (options : CheckOptions)
    (calls : List CallSite) : Outcome :=
  let report := (s.engine env).evaluateAll calls
  let threshold := options.failOn.getD s.settings.engine.failOn
  ⟨if report.reaches threshold then 1 else 0, report.render options.format, none⟩

section

variable {m : Type → Type} [Monad m]

/-- A path that stands for the standard input. -/
def isInputName (path : String) : Bool :=
  Path.trimText path.toList == ['-']

/-- The text with the call sites. -/
def readCalls (host : Host m) (calls : Option String) : m (Except Failure String) := do
  let source := calls.filter (!isInputName ·)
  let text ←
    match source with
    | some path => host.readText path
    | none => host.readInput
  let message :=
    match source with
    | some path => s!"Failed to read call sites: {path}"
    | none => "Failed to read call sites from stdin"
  pure (text.mapError fun fault => ⟨message, [fault.message]⟩)

def checkCalls (env : Environment) (host : Host m) (source : Option String)
    (options : CheckOptions) : m Outcome := do
  match ← loadSetup env host source options.root with
  | .error f => pure (.failed f)
  | .ok setup =>
    match ← readCalls host options.calls with
    | .error f => pure (.failed f)
    | .ok text =>
      match readCallSites text with
      | .error e => pure (.failed ⟨"Failed to parse call sites", e.causes⟩)
      | .ok calls => pure (setup.outcome env options calls)

/-! ### The other commands -/

def listRules (env : Environment) (host : Host m) (source : Option String) : m Outcome := do
  match ← loadSetup env host source none with
  | .error f => pure (.failed f)
  | .ok setup => pure (.success setup.listing)

/-- The name of the configuration file that `initialise` writes. -/
def newConfigName : String := "disallowed.toml"

/-- What is shown after a configuration was written. -/
def nextSteps (path : String) : String :=
  s!"Created {path}\n\nNext steps:\n  1. Edit {newConfigName} to configure rules\n" ++
    "  2. Run: disallowed check calls.json\n"

/-- Writes a configuration into the project directory. One that is there is kept unless `force`
is given. -/
def initialise (env : Environment) (host : Host m) (project : String) (force : Bool) :
    m Outcome := do
  let path := inDirectory (env.projectDir project) newConfigName
  if (← host.isPresent path) && !force then
    pure (.failed ⟨s!"Configuration file already exists at {path}. Use --force to overwrite.", []⟩)
  else
    match ← host.writeText path template with
    | .ok () => pure (.success (nextSteps path))
    | .error fault => pure (.failed ⟨fault.message, []⟩)

/-! ### All of it -/

def runInvocation (env : Environment) (host : Host m) (i : Invocation) : m Outcome := do
  let source ← locateConfig env host i.config i.project
  match i.command with
  | .check options => checkCalls env host source options
  | .listRules => listRules env host source
  | .init force => initialise env host i.project force

def run (env : Environment) (host : Host m) (arguments : List String) : m Outcome :=
  match Invocation.parse arguments with
  | .error stop => pure stop.outcome
  | .ok i => runInvocation env host i

end

end CallPolicy
