import CallPolicy.Argument.Value

namespace CallPolicy

/-!
# Conditions on arguments

`Conditions` pairs positions, counted from 1, with literals.

* `Conditions.tryInsert` — one more condition, refused at position 0 and for an unknown value.
* `Conditions.insert` — the conditions with one more, if it is not refused.
* `Conditions.allHold` — every position holds its literal.
* `Conditions.search` — whether some position holds its literal, as far as that is known.
-/

/-- Why a condition is refused. -/
inductive ConditionError where
  /-- The text of a position that is no integer from 1 on. -/
  | invalidPosition (position : String)
  | unsupportedValue (position : Nat) (value : String)
  deriving DecidableEq, Repr

def ConditionError.message : ConditionError → String
  | invalidPosition position =>
    s!"invalid parameter position `{position}`: expected an integer >= 1"
  | unsupportedValue position value =>
    s!"parameter {position}: unsupported value `{value}`, " ++
      "expected a string, integer, float or boolean"

/-- Literals by position, in the order of positions. -/
structure Conditions where
  entries : List (Nat × Argument)
  deriving DecidableEq

/-- What is known of a search for a literal. -/
inductive SearchResult where
  | hit (position : Nat)
  | clear
  | unknown (position : Nat)
  deriving DecidableEq, Repr

/-- The argument at a position, counted from 1. -/
def argumentAt? (arguments : List Argument) (position : Nat) : Option Argument :=
  match position with
  | 0 => none
  | index + 1 => arguments[index]?

namespace Conditions

def empty : Conditions := ⟨[]⟩

def isEmpty (c : Conditions) : Bool :=
  c.entries.isEmpty

/-- The literal at a position. -/
def get? (c : Conditions) (position : Nat) : Option Argument :=
  c.entries.lookup position

/-- The entries with `value` at `position`, kept in order. -/
def put (position : Nat) (value : Argument) : List (Nat × Argument) → List (Nat × Argument)
  | [] => [(position, value)]
  | entry :: rest =>
    if position < entry.1 then (position, value) :: entry :: rest
    else if position = entry.1 then (position, value) :: rest
    else entry :: put position value rest

/-- Tries to add or replace the literal at a position: the outcome, and the conditions after it. -/
def tryInsert (c : Conditions) (position : Nat) (value : Argument) :
    Except ConditionError Unit × Conditions :=
  if position = 0 then (.error (.invalidPosition (toString position)), c)
  else if !value.isKnown then (.error (.unsupportedValue position value.display), c)
  else (.ok (), ⟨put position value c.entries⟩)

/-- The conditions with the literal at the position, or why it is refused. -/
def insert (c : Conditions) (position : Nat) (value : Argument) :
    Except ConditionError Conditions :=
  match c.tryInsert position value with
  | (.ok (), c') => .ok c'
  | (.error e, _) => .error e

/-- Every position holds its literal. A missing or unknown argument is no literal. -/
def allHold (c : Conditions) (arguments : List Argument) : Bool :=
  c.entries.all fun (position, literal) =>
    (argumentAt? arguments position).any (·.agrees literal)

/-- The first position whose argument agrees with its literal, or else the first with an
unknown argument. -/
def search (c : Conditions) (arguments : List Argument) : SearchResult :=
  let hit := c.entries.find? fun (position, literal) =>
    (argumentAt? arguments position).any (·.agrees literal)
  let unknown := c.entries.find? fun (position, _) =>
    (argumentAt? arguments position).any (!·.isKnown)
  match hit, unknown with
  | some (position, _), _ => .hit position
  | none, some (position, _) => .unknown position
  | none, none => .clear

end Conditions

end CallPolicy
