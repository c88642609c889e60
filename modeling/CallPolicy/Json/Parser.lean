import CallPolicy.Json.Token

namespace CallPolicy.Json

/-!
# Reading JSON

`parse?` reads a text as one JSON value. The tokens drive a machine with a stack: `Frame` is a
list or table that is not closed yet, `Phase` says what may follow.
-/

/-- A list or a table that is not closed yet, its members last first. A table also holds the
key whose value is being read. -/
inductive Frame where
  | list (items : List Datum)
  | table (entries : List (Option String × Datum)) (key : Option String)

inductive Phase where
  | value
  | valueOrEnd
  | key
  | keyOrEnd
  | colon
  | commaOrEnd
  | done (d : Datum)

structure Machine where
  stack : List Frame
  phase : Phase

namespace Machine

def start : Machine := ⟨[], .value⟩

/-- A table of the entries, last first; one with a key that has no text is unreadable. -/
def tableOf (entries : List (Option String × Datum)) : Datum :=
  match entries.reverse.mapM fun (key, value) => key.map (·, value) with
  | some entries => .table entries
  | none => .unreadable

/-- A value that is complete goes into the innermost open list or table. -/
def feed (d : Datum) : List Frame → Machine
  | [] => ⟨[], .done d⟩
  | .list items :: rest => ⟨.list (d :: items) :: rest, .commaOrEnd⟩
  | .table entries key :: rest => ⟨.table ((key, d) :: entries) none :: rest, .commaOrEnd⟩

def closeList? : List Frame → Option Machine
  | .list items :: rest => some (feed (.list items.reverse) rest)
  | _ => none

def closeTable? : List Frame → Option Machine
  | .table entries _ :: rest => some (feed (tableOf entries) rest)
  | _ => none

/-- The first token of a value. -/
def value? (stack : List Frame) : Token → Option Machine
  | .openList => some ⟨.list [] :: stack, .valueOrEnd⟩
  | .openTable => some ⟨.table [] none :: stack, .keyOrEnd⟩
  | .scalar d => some (feed d stack)
  | .text (some s) => some (feed (.text s) stack)
  | .text none => some (feed .unreadable stack)
  | _ => none

def key? (stack : List Frame) : Token → Option Machine
  | .text key =>
    match stack with
    | .table entries _ :: rest => some ⟨.table entries key :: rest, .colon⟩
    | _ => none
  | _ => none

def step? (m : Machine) (t : Token) : Option Machine :=
  match m.phase, t with
  | .value, t => value? m.stack t
  | .valueOrEnd, .closeList => closeList? m.stack
  | .valueOrEnd, t => value? m.stack t
  | .key, t => key? m.stack t
  | .keyOrEnd, .closeTable => closeTable? m.stack
  | .keyOrEnd, t => key? m.stack t
  | .colon, .colon => some { m with phase := .value }
  | .commaOrEnd, .closeList => closeList? m.stack
  | .commaOrEnd, .closeTable => closeTable? m.stack
  | .commaOrEnd, .comma =>
    match m.stack with
    | .list _ :: _ => some { m with phase := .value }
    | .table _ _ :: _ => some { m with phase := .key }
    | [] => none
  | _, _ => none

def run? (m : Machine) (tokens : List Token) : Option Machine :=
  tokens.foldlM step? m

def result? (m : Machine) : Option Datum :=
  match m.phase with
  | .done d => some d
  | _ => none

end Machine

/-- The value that a text holds, and nothing else. -/
def parse? (cs : List Char) : Option Datum :=
  tokens? cs >>= Machine.start.run? >>= Machine.result?

end CallPolicy.Json
