import CallPolicy.Data.Datum

namespace CallPolicy.Toml

/-!
# Building tables

A TOML document may write a table in pieces. `Node` keeps, for every table, how it came to be,
because that decides which pieces may still be added.

* `put?` — adds the value of a dotted key.
* `place?` — adds the table of a header.
* `Node.toDatum` — the finished value.
-/

/-- How a table came to be. -/
inductive Origin where
  /-- It has a header of its own. -/
  | header
  /-- It is named in the header of a table inside it. -/
  | implied
  /-- It is named in a dotted key. -/
  | dotted
  deriving DecidableEq, Repr

inductive Node where
  /-- A value that is complete. -/
  | leaf (d : Datum)
  | table (origin : Origin) (entries : List (String × Node))
  /-- The tables of a repeated header; each is a `table`. -/
  | tables (items : List Node)

abbrev Entries := List (String × Node)

/-- Replaces the value of a key, or adds the key at the end. -/
def set (key : String) (node : Node) : Entries → Entries
  | [] => [(key, node)]
  | entry :: rest => if entry.1 = key then (key, node) :: rest else entry :: set key node rest

/-! ### Dotted keys -/

/-- The entries with a value at the dotted key `path`, whose last part is `last`. The value may
go into a table only where dotted keys made that table. -/
def put? (last : String) (d : Datum) : List String → Entries → Option Entries
  | [], entries =>
    if (entries.lookup last).isSome then none else some (entries ++ [(last, .leaf d)])
  | part :: path, entries =>
    match entries.lookup part with
    | none => (put? last d path []).map fun inner => set part (.table .dotted inner) entries
    | some (.table .dotted inner) =>
      (put? last d path inner).map fun inner => set part (.table .dotted inner) entries
    | some (.table .implied inner) =>
      if path.isEmpty then none
      else (put? last d path inner).map fun inner => set part (.table .implied inner) entries
    | some (.tables items) =>
      match path.isEmpty, items.getLast? with
      | false, some (.table origin inner) =>
        (put? last d path inner).map fun inner =>
          set part (.tables (items.dropLast ++ [.table origin inner])) entries
      | _, _ => none
    | some (.table .header _) | some (.leaf _) => none

/-- Adds a list of dotted keys and their values. -/
def putAll? (pairs : List (List String × Datum)) (entries : Entries) : Option Entries :=
  pairs.foldlM (fun entries (key, d) =>
    match key.getLast? with
    | some last => put? last d key.dropLast entries
    | none => none) entries

/-! ### Headers -/

/-- Changes the node at a path, through tables and the last of repeated tables. -/
def change? (change : Option Node → Option Node) : List String → Entries → Option Entries
  | [], _ => none
  | [key], entries => (change (entries.lookup key)).map fun node => set key node entries
  | key :: path, entries =>
    match entries.lookup key with
    | none => (change? change path []).map fun inner => set key (.table .implied inner) entries
    | some (.table origin inner) =>
      (change? change path inner).map fun inner => set key (.table origin inner) entries
    | some (.tables items) =>
      match items.getLast? with
      | some (.table origin inner) =>
        (change? change path inner).map fun inner =>
          set key (.tables (items.dropLast ++ [.table origin inner])) entries
      | _ => none
    | some (.leaf _) => none

/-- A header: the path of a table, and whether it may be repeated. -/
structure Header where
  path : List String
  repeats : Bool
  deriving DecidableEq, Repr

/-- The node of a header that has `pairs` under it. A table without a header may still get
one. -/
def Header.node? (h : Header) (pairs : List (List String × Datum)) :
    Option Node → Option Node
  | none => do
    let entries ← putAll? pairs []
    let table := Node.table .header entries
    some (if h.repeats then .tables [table] else table)
  | some (.table .implied entries) =>
    if h.repeats then none else (putAll? pairs entries).map (.table .header)
  | some (.tables items) =>
    if h.repeats then
      (putAll? pairs []).map fun entries => .tables (items ++ [.table .header entries])
    else none
  | some _ => none

/-- Adds the table of a header. -/
def place? (entries : Entries) (h : Header) (pairs : List (List String × Datum)) :
    Option Entries :=
  change? (h.node? pairs) h.path entries

/-! ### Values -/

mutual

def Node.toDatum : Node → Datum
  | .leaf d => d
  | .table _ entries => .table (entriesToData entries)
  | .tables items => .list (nodesToData items)

def entriesToData : List (String × Node) → List (String × Datum)
  | [] => []
  | (key, node) :: rest => (key, node.toDatum) :: entriesToData rest

def nodesToData : List Node → List Datum
  | [] => []
  | node :: rest => node.toDatum :: nodesToData rest

end

end CallPolicy.Toml
