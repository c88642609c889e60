import CallPolicy.Command.Invocation
import CallPolicy.Text.Pad

namespace CallPolicy

/-!
# How the program is called

* `Level.help` — what the program explains about its arguments at a level: a table or, where
  values have explanations of their own, an account at length.
-/

/-! ### Options and values -/

namespace OptionName

/-- What stands for the value of the option. -/
def valueName? : OptionName → Option String
  | config => some "CONFIG"
  | project => some "PROJECT"
  | format => some "FORMAT"
  | root => some "ROOT"
  | failOn => some "FAIL_ON"
  | verbose | help | version | force => none

def about : OptionName → String
  | verbose => "Enable verbose output"
  | config => "Path to configuration file"
  | project => "Project directory searched for a configuration file"
  | help => "Print help"
  | version => "Print version"
  | format => "Output format"
  | root => "Project root overriding \x60[engine] root\x60"
  | failOn => "Lowest severity that fails the run, overriding \x60[engine] fail-on\x60"
  | force => "Overwrite existing config"

/-- The value of the option where it is not given. -/
def default? : OptionName → Option String
  | project => some "."
  | format => some "text"
  | _ => none

/-- The values of an option that has a few, and what each does. -/
def choices : OptionName → List (String × String)
  | format =>
    [("text", "Human-readable text output"), ("json", "JSON output"),
      ("compact", "One-line-per-diagnostic compact format"), ("fancy", "Rich terminal rendering")]
  | failOn =>
    [("info", "Fail on any diagnostic"), ("warning", "Fail on warnings and errors"),
      ("error", "Fail on errors only")]
  | _ => []

/-- The option as it is written, with the place of its value. -/
def spelling (o : OptionName) : String :=
  let short :=
    match o.short? with
    | some c => s!"  -{c}, "
    | none => "      "
  let value :=
    match o.valueName? with
    | some name => s!" <{name}>"
    | none => ""
  s!"{short}--{o.long}{value}"

def defaultNote (o : OptionName) : List String :=
  o.default?.toList.map fun value => s!"[default: {value}]"

def choicesNote (o : OptionName) : List String :=
  if o.choices.isEmpty then []
  else ["[possible values: " ++ ", ".intercalate (o.choices.map (·.1)) ++ "]"]

end OptionName

/-! ### Levels -/

def SubcommandName.text : SubcommandName → String
  | check => "check"
  | listRules => "list-rules"
  | init => "init"
  | help => "help"

def SubcommandName.about : SubcommandName → String
  | check => "Evaluate resolved call sites against the configured rules"
  | listRules => "List configured rules"
  | init => "Initialize configuration file"
  | help => "Print this message or the help of the given subcommand(s)"

namespace Level

def about : Level → String
  | top => "CLI for the disallowed-calls policy engine"
  | sub name => name.about

/-- The line that shows how the program is called. -/
def call : Level → String
  | top => "disallowed [OPTIONS] <COMMAND>"
  | sub .check => "disallowed check [OPTIONS] [CALLS]"
  | sub .listRules => "disallowed list-rules [OPTIONS]"
  | sub .init => "disallowed init [OPTIONS]"
  | sub .help => "disallowed help [COMMAND]..."

/-- What is explained about arguments that are no options. -/
def positionalTerms : Level → List (String × String)
  | sub .check =>
    [("[CALLS]",
      "JSON call-site file (array or JSON lines); reads stdin if omitted or \x60-\x60")]
  | sub .help => [("[COMMAND]...", "Print help for the subcommand(s)")]
  | _ => []

def subcommands : Level → List SubcommandName
  | top => [.check, .listRules, .init, .help]
  | _ => []

/-- Values of an option are explained, which takes more room than a table has. -/
def hasDetails (l : Level) : Bool :=
  l.options.any (!·.choices.isEmpty)

/-! ### Tables -/

/-- Rows of a term and what it means, in two columns. -/
def table (rows : List (String × String)) : String :=
  let width := (rows.map (·.1.length)).foldl max 0
  String.join (rows.map fun (term, meaning) => s!"{Text.padRight width term}  {meaning}\n")

/-- A heading and what is under it, if anything. -/
def titled (title : String) (body : String) : List String :=
  if body.isEmpty then [] else [s!"{title}:\n{body}"]

/-- What a table says about an option. The option for help tells where to find more. -/
def summary (l : Level) (o : OptionName) : String :=
  let more := if o = .help && l.hasDetails then " (see more with '--help')" else ""
  " ".intercalate (o.about :: (o.defaultNote ++ o.choicesNote)) ++ more

/-- The explanation as a table. -/
def brief (l : Level) : List String :=
  titled "Commands" (table (l.subcommands.map fun name => ("  " ++ name.text, name.about))) ++
  titled "Arguments" (table (l.positionalTerms.map fun (name, about) => ("  " ++ name, about))) ++
  titled "Options" (table (l.options.map fun o => (o.spelling, l.summary o)))

/-! ### Length -/

/-- What is said about a term starts in this column. -/
def indent : String := "          "

/-- A term, and what it means on further lines. -/
def entry (term : String) (meaning : String) : String :=
  s!"{term}\n{indent}{meaning}\n"

def choiceLines (o : OptionName) : String :=
  let width := (o.choices.map (·.1.length)).foldl max 0
  let line := fun (value, about) =>
    s!"\n{indent}- " ++ Text.padRight (width + 2) (value ++ ":") ++ about
  if o.choices.isEmpty then ""
  else s!"\n\n{indent}Possible values:" ++ String.join (o.choices.map line)

/-- What is said about an option at length. -/
def details (o : OptionName) : String :=
  let more := if o = .help then " (see a summary with '-h')" else ""
  let value := String.join (o.defaultNote.map fun note => s!"\n{indent}\n{indent}{note}")
  o.about ++ more ++ value ++ choiceLines o

/-- The explanation at length. -/
def full (l : Level) : List String :=
  titled "Arguments" ("\n".intercalate (l.positionalTerms.map fun (name, about) =>
    entry ("  " ++ name) about)) ++
  titled "Options" ("\n".intercalate (l.options.map fun o => entry o.spelling (details o)))

/-! ### All of it -/

/-- What is shown on a level. `atLength` asks for the long form, where there is one. -/
def help (l : Level) (atLength : Bool) : String :=
  let sections := if atLength && l.hasDetails then l.full else l.brief
  s!"{l.about}\n\nUsage: {l.call}\n\n" ++ "\n".intercalate sections

end Level

end CallPolicy
