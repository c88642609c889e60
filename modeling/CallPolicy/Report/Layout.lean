import CallPolicy.Json.Printer
import CallPolicy.Report.Basic
import CallPolicy.Text.Wrap

namespace CallPolicy

/-!
# Writing reports

`Report.render` is the text of a report in one of four formats.
-/

inductive ReportFormat where
  /-- A few lines for each diagnostic, with colours, and a summary. -/
  | text
  | json
  /-- A line for each diagnostic. -/
  | compact
  /-- Each diagnostic wrapped to the width of a page, and a summary. -/
  | fancy
  deriving DecidableEq, Repr

def ReportFormat.ofName? : String → Option ReportFormat
  | "text" => some .text
  | "json" => some .json
  | "compact" => some .compact
  | "fancy" => some .fancy
  | _ => none

/-! ### Colours -/

/-- A text in a colour of the terminal. -/
def coloured (colour : Nat) (s : String) : String :=
  s!"\x1b[{colour}m{s}\x1b[0m"

def red : Nat := 31
def green : Nat := 32
def yellow : Nat := 33
def blue : Nat := 34

def Severity.colour : Severity → Nat
  | error => red
  | warning => yellow
  | info => blue

namespace Diagnostic

/-! ### Text -/

def textLines (d : Diagnostic) : String :=
  let tip :=
    match d.tip with
    | some tip => s!"  = tip: {tip}\n"
    | none => ""
  s!"{d.identifier} at {d.location.display}\n" ++
    s!"  {coloured d.severity.colour d.severity.name}: {d.message}\n{tip}\n"

/-! ### Pages -/

/-- The layout of what a diagnostic says. -/
def messageLayout : Text.Layout := ⟨78, "  × ".toList, "  │ ".toList⟩

/-- The layout of its hint. -/
def helpLayout : Text.Layout := ⟨78, "  help: ".toList, "        ".toList⟩

def page (d : Diagnostic) : String :=
  let help :=
    match d.tip with
    | some tip => String.ofList (Text.wrap helpLayout tip.toList) ++ "\n"
    | none => ""
  String.ofList (Text.wrap messageLayout d.headline.toList) ++ "\n" ++ help ++ "\n"

end Diagnostic

namespace Report

/-- Red when there are errors, yellow when there are warnings. -/
def colour (r : Report) : Nat :=
  if 0 < r.count .error then red else if 0 < r.count .warning then yellow else green

/-- The text of all diagnostics. -/
def body (r : Report) (write : Diagnostic → String) : String :=
  String.join (r.diagnostics.map write)

def render (r : Report) : ReportFormat → String
  | .text => r.body Diagnostic.textLines ++ coloured r.colour r.summary ++ "\n"
  | .json => Json.pretty r.toDatumWithCounts ++ "\n"
  | .compact => r.body fun d => d.line ++ "\n"
  | .fancy => r.body Diagnostic.page ++ r.summary ++ "\n"

end Report

end CallPolicy
