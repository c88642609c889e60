import CallPolicy.Report.Layout
import CallPolicy.Severity

namespace CallPolicy

/-!
# Command lines

* `Invocation` — what the arguments of the program ask for.
* `Invocation.parse` — reading them, from left to right. The first argument that is wrong, or
  that asks for help or the version, decides.
-/

/-! ### What may be asked for -/

structure CheckOptions where
  /-- The file with the call sites; the standard input where there is none. -/
  calls : Option String
  format : ReportFormat
  root : Option String
  failOn : Option Severity
  deriving DecidableEq, Repr

inductive Command where
  | check (options : CheckOptions)
  | listRules
  | init (force : Bool)
  deriving DecidableEq, Repr

structure Invocation where
  verbose : Bool
  config : Option String
  project : String
  command : Command
  deriving DecidableEq, Repr

/-! ### Options -/

inductive OptionName where
  | verbose
  | config
  | project
  | help
  | version
  | format
  | root
  | failOn
  | force
  deriving DecidableEq, Repr

namespace OptionName

def long : OptionName → String
  | verbose => "verbose"
  | config => "config"
  | project => "project"
  | help => "help"
  | version => "version"
  | format => "format"
  | root => "root"
  | failOn => "fail-on"
  | force => "force"

def short? : OptionName → Option Char
  | verbose => some 'v'
  | config => some 'c'
  | project => some 'p'
  | help => some 'h'
  | version => some 'V'
  | format => some 'f'
  | root | failOn | force => none

def takesValue : OptionName → Bool
  | config | project | format | root | failOn => true
  | verbose | help | version | force => false

/-- The option accepts the value. Paths are not empty. -/
def accepts : OptionName → String → Bool
  | config, value | project, value | root, value => !value.isEmpty
  | format, value => (ReportFormat.ofName? value).isSome
  | failOn, value => (Severity.ofName? value).isSome
  | _, _ => true

end OptionName

inductive SubcommandName where
  | check
  | listRules
  | init
  | help
  deriving DecidableEq, Repr

def SubcommandName.ofName? : String → Option SubcommandName
  | "check" => some .check
  | "list-rules" => some .listRules
  | "init" => some .init
  | "help" => some .help
  | _ => none

/-- Where arguments stand: before the name of a subcommand, or after it. -/
inductive Level where
  | top
  | sub (name : SubcommandName)
  deriving DecidableEq, Repr

namespace Level

/-- The options of a level, in the order in which they are explained. -/
def options : Level → List OptionName
  | top => [.verbose, .config, .project, .help, .version]
  | sub .check => [.format, .verbose, .config, .root, .failOn, .project, .help]
  | sub .init => [.force, .verbose, .config, .project, .help]
  | sub .listRules => [.verbose, .config, .project, .help]
  | sub .help => []

/-- How many arguments may stand there that are no options. -/
def positionals : Level → Nat
  | sub .check => 1
  | _ => 0

def ofLong? (l : Level) (name : String) : Option OptionName :=
  l.options.find? (·.long == name)

def ofShort? (l : Level) (c : Char) : Option OptionName :=
  l.options.find? (·.short? == some c)

end Level

/-- Why reading stops before there is an invocation. -/
inductive Stop where
  | usage
  /-- Help on a level was asked for, briefly or at length. -/
  | help (level : Level) (atLength : Bool)
  | version
  deriving DecidableEq, Repr

/-! ### Reading one level -/

/-- What has been read at a level. -/
structure Given where
  options : List (OptionName × String)
  positionals : List String
  deriving DecidableEq, Repr

namespace Given

def none : Given := ⟨[], []⟩

def get? (g : Given) (name : OptionName) : Option String :=
  g.options.lookup name

def has (g : Given) (name : OptionName) : Bool :=
  (g.get? name).isSome

/-- Adds an option, which may be given once. -/
def add (g : Given) (name : OptionName) (value : String) : Except Stop Given :=
  if g.has name || !name.accepts value then .error .usage
  else .ok { g with options := (name, value) :: g.options }

/-- Adds an option without a value, spelled out (`spelled`) or as one letter. -/
def addSwitch (g : Given) (l : Level) (spelled : Bool) : OptionName → Except Stop Given
  | .help => .error (.help l spelled)
  | .version => .error .version
  | name => g.add name ""

def addPositional (g : Given) (l : Level) (value : String) : Except Stop Given :=
  if g.positionals.length < l.positionals && !value.isEmpty then
    .ok { g with positionals := g.positionals ++ [value] }
  else .error .usage

end Given

/-- How an argument reads: an option may wait for its value in the next one. -/
structure Reading where
  given : Given
  waiting : Option OptionName
  deriving DecidableEq, Repr

/-- A value that is attached to an option: all of the text, or what follows its `=`. -/
def attachedValue (cs : List Char) : List Char :=
  match cs with
  | '=' :: rest => rest
  | cs => cs

/-- An argument that starts with two hyphens, without these. -/
def readLong (l : Level) (g : Given) (cs : List Char) : Except Stop Reading :=
  let name := String.ofList (cs.takeWhile (· != '='))
  let attached := cs.dropWhile (· != '=')
  match l.ofLong? name with
  | none => .error .usage
  | some option =>
    if option.takesValue then
      if attached.isEmpty then .ok ⟨g, some option⟩
      else do
        let g ← g.add option (String.ofList (attachedValue attached))
        .ok ⟨g, none⟩
    else if attached.isEmpty then do
      let g ← g.addSwitch l true option
      .ok ⟨g, none⟩
    else .error .usage

/-- The letters of an argument that starts with one hyphen. -/
def readShort (l : Level) (g : Given) : List Char → Except Stop Reading
  | [] => .ok ⟨g, none⟩
  | c :: rest =>
    match l.ofShort? c with
    | none => .error .usage
    | some option =>
      if option.takesValue then
        if rest.isEmpty then .ok ⟨g, some option⟩
        else do
          let g ← g.add option (String.ofList (attachedValue rest))
          .ok ⟨g, none⟩
      else do
        let g ← g.addSwitch l false option
        readShort l g rest

/-- An argument that reads as an option. A lone hyphen is a value. -/
def readOption? (l : Level) (g : Given) (argument : String) : Option (Except Stop Reading) :=
  match argument.toList with
  | '-' :: '-' :: rest => some (readLong l g rest)
  | '-' :: c :: rest => some (readShort l g (c :: rest))
  | _ => none

/-- Where a level ends: at the end of the arguments, or at the name of a subcommand. -/
structure LevelEnd where
  given : Given
  subcommand : Option (SubcommandName × List String)
  deriving DecidableEq, Repr

/-- Arguments after a lone `--`, which are no options. -/
def readRest (l : Level) (g : Given) : List String → Except Stop LevelEnd
  | [] => .ok ⟨g, none⟩
  | argument :: rest => do
    let g ← g.addPositional l argument
    readRest l g rest

/-- The arguments of a level. An option that waits for its value gets the next argument, which
must not read as an option. -/
def readLevel (l : Level) (g : Given) (waiting : Option OptionName) :
    List String → Except Stop LevelEnd
  | [] => if waiting.isSome then .error .usage else .ok ⟨g, none⟩
  | argument :: rest =>
    match waiting, SubcommandName.ofName? argument with
    | none, some name =>
      if l = .top then .ok ⟨g, some (name, rest)⟩
      else do
        let g ← g.addPositional l argument
        readLevel l g none rest
    | waiting, _ =>
      if argument = "--" then if waiting.isSome then .error .usage else readRest l g rest
      else
        match readOption? l g argument, waiting with
        | some _, some _ => .error .usage
        | some (.error stop), none => .error stop
        | some (.ok reading), none => readLevel l reading.given reading.waiting rest
        | none, some option => do
          let g ← g.add option argument
          readLevel l g none rest
        | none, none => do
          let g ← g.addPositional l argument
          readLevel l g none rest

/-! ### Invocations -/

namespace Invocation

/-- Help at length on the program, or on a subcommand. -/
def helpOn : List String → Stop
  | [] => .help .top true
  | [name] =>
    match SubcommandName.ofName? name with
    | some name => .help (.sub name) true
    | none => .usage
  | _ => .usage

def commandOf (name : SubcommandName) (g : Given) : Option Command :=
  match name with
  | .check =>
    some <| .check {
      calls := g.positionals.head?
      format := ((g.get? .format).bind ReportFormat.ofName?).getD .text
      root := g.get? .root
      failOn := (g.get? .failOn).bind Severity.ofName? }
  | .listRules => some .listRules
  | .init => some (.init (g.has .force))
  | .help => none

/-- The arguments of the program. Options that stand at both levels count where they stand
last. -/
def parse (arguments : List String) : Except Stop Invocation := do
  let top ← readLevel .top .none none arguments
  match top.subcommand with
  | none => .error .usage
  | some (.help, rest) => .error (helpOn rest)
  | some (name, rest) =>
    let sub ← readLevel (.sub name) .none none rest
    let both := fun option => (sub.given.get? option).or (top.given.get? option)
    match commandOf name sub.given with
    | none => .error .usage
    | some command =>
      .ok {
        verbose := (both .verbose).isSome
        config := both .config
        project := (both .project).getD "."
        command }

end Invocation

end CallPolicy
