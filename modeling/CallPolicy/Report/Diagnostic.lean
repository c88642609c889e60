import CallPolicy.Severity

namespace CallPolicy

/-!
# Diagnostics

A diagnostic is the finding about one call.

* `Diagnostic.line` — the diagnostic on one line.
* `Diagnostic.headline` — the diagnostic without its severity and tip.
* `Location.toDatum`, `Location.ofDatum?`, and the same for `Diagnostic` — writing and reading.
-/

/-- Where a call is. -/
structure Location where
  file : String
  /-- Counted from 1. -/
  line : UInt64
  deriving DecidableEq, Repr

structure Diagnostic where
  identifier : String
  /-- The name of the rule that was broken. -/
  rule : String
  severity : Severity
  location : Location
  message : String
  /-- A hint on what to do instead. -/
  tip : Option String
  deriving DecidableEq, Repr

/-! ### Text -/

def Location.display (l : Location) : String :=
  s!"{l.file}:{l.line.toNat}"

namespace Diagnostic

def line (d : Diagnostic) : String :=
  let tip :=
    match d.tip with
    | some tip => s!" (tip: {tip})"
    | none => ""
  s!"{d.location.display}: {d.severity.name} [{d.identifier}] {d.message}{tip}"

def headline (d : Diagnostic) : String :=
  s!"[{d.identifier}] {d.location.display}: {d.message}"

end Diagnostic

/-! ### Data -/

namespace Location

def fields : List Field := [.plain "file", .plain "line"]

def toDatum (l : Location) : Datum :=
  .table [("file", .text l.file), ("line", .int l.line.toNat)]

def ofDatum? (d : Datum) : Option Location := do
  let record ← Record.read? .json fields false d
  let file ← record.required? "file" Datum.text?
  let line ← record.required? "line" Datum.word?
  some { file, line }

end Location

namespace Diagnostic

def fields : List Field :=
  [.plain "identifier", .plain "rule", .plain "severity", .plain "location", .plain "message",
    .plain "tip"]

/-- A missing tip is left out. -/
def toDatum (d : Diagnostic) : Datum :=
  .table <|
    [("identifier", .text d.identifier), ("rule", .text d.rule),
      ("severity", d.severity.toDatum), ("location", d.location.toDatum),
      ("message", .text d.message)] ++
    d.tip.toList.map fun tip => ("tip", .text tip)

def ofDatum? (d : Datum) : Option Diagnostic := do
  let record ← Record.read? .json fields false d
  let identifier ← record.required? "identifier" Datum.text?
  let rule ← record.required? "rule" Datum.text?
  let severity ← record.required? "severity" (Severity.ofDatum? .json)
  let location ← record.required? "location" Location.ofDatum?
  let message ← record.required? "message" Datum.text?
  let tip ← record.optional? "tip" Datum.text?
  some { identifier, rule, severity, location, message, tip }

end Diagnostic

end CallPolicy
