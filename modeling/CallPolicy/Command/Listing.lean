import CallPolicy.Command.Setup
import CallPolicy.Text.Pad

namespace CallPolicy

/-!
# Listing rules

`Setup.listing` is a table of the rules of a run and of what they allow.
-/

/-- A row of the table. -/
def row (kind severity calls message : String) : String :=
  s!"{Text.padRight 10 kind} {Text.padRight 8 severity} {Text.padRight 45 calls} {message}\n"

namespace Rule

/-- A label and what belongs to it, where anything does. -/
def labelled (label : String) (items : List String) : List String :=
  if items.isEmpty then [] else [label ++ ": " ++ ", ".intercalate items]

def patternTexts (patterns : List SymbolPattern) : List String :=
  patterns.map (·.text)

def globTexts (globs : List PathGlob) : List String :=
  globs.map (·.text)

def conditionTexts (c : Conditions) : List String :=
  c.entries.map fun (position, literal) => s!"#{position} = {literal.display}"

/-- What the rule allows, and its tip. -/
def details (r : Rule) : List String :=
  labelled "exclude" (patternTexts r.excludes) ++
  labelled "allow-in" (globTexts r.allowIn) ++
  labelled "allow-except-in" (globTexts r.allowExceptIn) ++
  labelled "allow-in-callers" (patternTexts r.allowInCallers) ++
  labelled "allow-except-in-callers" (patternTexts r.allowExceptInCallers) ++
  labelled "allow-params-in-allowed" (conditionTexts r.paramsInAllowed) ++
  labelled "allow-except-params-in-allowed" (conditionTexts r.exceptParamsInAllowed) ++
  labelled "allow-params-anywhere" (conditionTexts r.paramsAnywhere) ++
  labelled "allow-except-params" (conditionTexts r.exceptParams) ++
  r.errorTip.toList.map fun tip => s!"tip: {tip}"

/-- The rule in the table, with a line for each detail. -/
def listing (r : Rule) : String :=
  let calls := ", ".intercalate (r.calls.map (·.displayCall))
  row r.kind.name r.severity.name calls r.message ++
    String.join (r.details.map fun line => Text.padRight 20 "" ++ line ++ "\n")

end Rule

/-- What is shown when there are no rules. -/
def emptyListing : String :=
  "No rules configured.\n\nCreate a configuration with:\n  disallowed init\n"

def Setup.listing (s : Setup) : String :=
  if s.rules.rules.isEmpty then emptyListing
  else
    s!"Configured rules (root: {s.settings.engine.root}):\n\n" ++
      row "Kind" "Severity" "Calls" "Message" ++
      String.ofList (List.replicate 90 '-') ++ "\n" ++
      String.join ((s.rules.ofKind .method ++ s.rules.ofKind .function).map Rule.listing)

end CallPolicy
