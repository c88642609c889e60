import CallPolicy.Data.Datum
import CallPolicy.Decimal.Shortest

namespace CallPolicy

/-!
# Arguments of calls

* `Argument` — a literal, or an argument of which nothing is known.
* `Argument.agrees` — strict equality of literals: the type counts, and an unknown argument
  agrees with nothing.
* `Argument.ofJson`, `Argument.ofToml?` — the literals of a call site and of a rule.
-/

inductive Argument where
  | null
  | bool (b : Bool)
  | int (n : Int64)
  | float (x : Float)
  | text (s : String)
  /-- Not a literal, or not known. -/
  | unknown
  deriving DecidableEq

namespace Argument

def isKnown : Argument → Bool
  | unknown => false
  | _ => true

/-- The same literal of the same type. Floats are compared as numbers: both zeros agree, and
no NaN agrees with anything. -/
def agrees : Argument → Argument → Bool
  | null, null => true
  | bool a, bool b => a == b
  | int a, int b => a == b
  | float a, float b => a == b
  | text a, text b => a == b
  | _, _ => false

/-- The argument as listings show it. -/
def display : Argument → String
  | null => "null"
  | bool b => if b then "true" else "false"
  | int n => toString n.toInt
  | float x => Decimal.text x
  | text s => s!"'{s}'"
  | unknown => "<unknown>"

/-- An integer that fits 64 bits stays one; any other becomes the nearest double. -/
def ofInt (n : Int) : Argument :=
  if Int64.minValue.toInt ≤ n ∧ n ≤ Int64.maxValue.toInt then int (Int64.ofInt n)
  else float (Float.ofInt n)

/-- An argument of a call. Lists and tables agree with no literal, so nothing is known of
them. -/
def ofJson : Datum → Argument
  | .null => null
  | .bool b => bool b
  | .int n => ofInt n
  | .float x => float x
  | .text s => text s
  | .moment _ | .unreadable | .list _ | .table _ => unknown

/-- A literal of a rule. -/
def ofToml? : Datum → Option Argument
  | .bool b => some (bool b)
  | .int n => some (int (Int64.ofInt n))
  | .float x => some (float x)
  | .text s => some (text s)
  | .null | .moment _ | .unreadable | .list _ | .table _ => none

end Argument

end CallPolicy
