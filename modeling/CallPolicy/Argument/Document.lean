import CallPolicy.Argument.Value
import CallPolicy.Data.Record

namespace CallPolicy

/-!
# Arguments in data documents

An argument is written as its type and, where the type has any, its value.

* `Argument.toDatum`, `Argument.ofDatum?` — writing and reading.
-/

namespace Argument

def typeName : Argument → String
  | null => "null"
  | bool _ => "bool"
  | int _ => "int"
  | float _ => "float"
  | text _ => "str"
  | unknown => "unknown"

def toDatum (a : Argument) : Datum :=
  let typed := fun value => Datum.table [("type", .text a.typeName), ("value", value)]
  match a with
  | null | unknown => .table [("type", .text a.typeName)]
  | bool b => typed (.bool b)
  | int n => typed (.int n.toInt)
  | float x => typed (.float x)
  | text s => typed (.text s)

/-- The argument of a type that has no value. -/
def withoutValue? : String → Option Argument
  | "null" => some null
  | "unknown" => some unknown
  | _ => none

/-- An integer of 64 bits. -/
def intOf? : Datum → Option Int64
  | .int n =>
    if Int64.minValue.toInt ≤ n ∧ n ≤ Int64.maxValue.toInt then some (Int64.ofInt n) else none
  | _ => none

/-- A double; an integer becomes the nearest one. -/
def floatOf? : Datum → Option Float
  | .float x => some x
  | .int n => some (Float.ofInt n)
  | _ => none

def boolOf? : Datum → Option Bool
  | .bool b => some b
  | _ => none

/-- The argument of a type and a value. A type without values accepts null. -/
def withValue? (type : String) (value : Datum) : Option Argument :=
  match type with
  | "bool" => (boolOf? value).map bool
  | "int" => (intOf? value).map int
  | "float" => (floatOf? value).map float
  | "str" => value.text?.map text
  | type =>
    match value with
    | .null => withoutValue? type
    | _ => none

/-- A table of the two, or a list of the two, whose type is a text. -/
def ofDatum? (d : Datum) : Option Argument :=
  match d with
  | .list [.text type, value] => withValue? type value
  | .list _ => none
  | d => do
    let record ← Record.read? .json [.plain "type", .plain "value"] false d
    let type ← record.required? "type" Conventions.json.case?
    match record.lookup "value" with
    | none => withoutValue? type
    | some value => withValue? type value

end Argument

end CallPolicy
