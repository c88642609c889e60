import CallPolicy.Call.Candidates
import CallPolicy.Report.Diagnostic
import CallPolicy.Rule.Set

namespace CallPolicy

/-!
# Findings

A finding is a call, the candidate under which a rule is about it, and the rule.
`Finding.diagnostic` puts it into words.
-/

/-- The identifier of a diagnostic whose rule gives none. -/
def SymbolKind.identifier : SymbolKind → String
  | function => "disallowed.function"
  | instanceMethod => "disallowed.method"
  | staticMethod => "disallowed.staticCall"

structure Finding where
  call : CallSite
  candidate : Symbol
  found : RuleMatch
  deriving DecidableEq

namespace Finding

def message (f : Finding) : String :=
  let candidate := f.candidate.displayCall
  let pattern := f.found.pattern.displayCall
  let note :=
    match aliasNote? f.call.invoked f.candidate with
    | some note => " " ++ note
    | none => ""
  let reason := if f.found.rule.message = "" then "." else ", " ++ f.found.rule.message
  let match_ := if pattern = candidate then "" else s!" [{candidate} matches {pattern}]"
  s!"Calling {candidate}{note} is forbidden{reason}{match_}"

def diagnostic (f : Finding) : Diagnostic where
  identifier := f.found.rule.errorIdentifier.getD f.call.kind.identifier
  rule := f.found.rule.name
  severity := f.found.rule.severity
  location := { file := f.call.file, line := f.call.line }
  message := f.message
  tip := f.found.rule.errorTip

end Finding

end CallPolicy
