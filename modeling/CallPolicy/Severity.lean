import CallPolicy.Data.Record

namespace CallPolicy

/-!
# Severities

How much a finding matters: `info`, then `warning`, then `error`.
-/

inductive Severity where
  | info
  | warning
  | error
  deriving DecidableEq, Repr

namespace Severity

def name : Severity → String
  | info => "info"
  | warning => "warning"
  | error => "error"

def ofName? : String → Option Severity
  | "error" => some error
  | "warning" => some warning
  | "info" => some info
  | _ => none

def rank : Severity → Nat
  | info => 0
  | warning => 1
  | error => 2

/-- `s` matters at least as much as `threshold`. -/
def reaches (s threshold : Severity) : Bool :=
  threshold.rank ≤ s.rank

def ofDatum? (conventions : Conventions) (d : Datum) : Option Severity :=
  conventions.case? d >>= ofName?

def toDatum (s : Severity) : Datum :=
  .text s.name

theorem ofName?_name (s : Severity) : ofName? s.name = some s := by
  cases s <;> rfl

end Severity

end CallPolicy
