import CallPolicy.Report.Diagnostic

namespace CallPolicy

/-!
# Reports

A report lists the diagnostics of a batch of calls and how many calls were looked at.

* `Report.add` — the report of two batches.
* `Report.count`, `Report.reaches`, `Report.summary` — what a report amounts to.
* `Report.toDatum`, `Report.ofDatum?` — writing and reading.
-/

structure Report where
  diagnostics : List Diagnostic
  callSitesChecked : UInt64
  deriving DecidableEq, Repr

namespace Report

def empty : Report := ⟨[], 0⟩

/-- The report of the calls of `a`, then those of `b`. -/
def add (a b : Report) : Report where
  diagnostics := a.diagnostics ++ b.diagnostics
  callSitesChecked := a.callSitesChecked + b.callSitesChecked

def count (r : Report) (s : Severity) : Nat :=
  r.diagnostics.countP (·.severity == s)

/-- Some diagnostic matters at least as much as `threshold`. -/
def reaches (r : Report) (threshold : Severity) : Bool :=
  r.diagnostics.any (·.severity.reaches threshold)

def summary (r : Report) : String :=
  s!"Found {r.count .error} error(s), {r.count .warning} warning(s), {r.count .info} info(s) " ++
    s!"in {r.callSitesChecked.toNat} call site(s)"

/-! ### Data -/

def fields : List Field := [.plain "diagnostics", .plain "call_sites_checked"]

def entries (r : Report) : List (String × Datum) :=
  [("diagnostics", .list (r.diagnostics.map Diagnostic.toDatum)),
    ("call_sites_checked", .int r.callSitesChecked.toNat)]

def toDatum (r : Report) : Datum :=
  .table r.entries

/-- The report with its counts, for those who only read these. -/
def toDatumWithCounts (r : Report) : Datum :=
  .table <| r.entries ++
    [("errors", .int (r.count .error)), ("warnings", .int (r.count .warning)),
      ("infos", .int (r.count .info))]

def ofDatum? (d : Datum) : Option Report := do
  let record ← Record.read? .json fields false d
  let diagnostics ← record.required? "diagnostics" (Datum.listOf? Diagnostic.ofDatum?)
  let callSitesChecked ← record.required? "call_sites_checked" Datum.word?
  some { diagnostics, callSitesChecked }

end Report

end CallPolicy
