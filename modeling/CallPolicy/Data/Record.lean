import CallPolicy.Data.Datum

namespace CallPolicy

/-!
# Records and cases in data documents

* `Record.read?` — a datum read as a record: a table with the record's fields, or a list of
  their values in order.
* `Record.required?`, `Record.optional?`, `Record.default?` — the value of one field.
* `Conventions.case?` — the name of a case: a text, or a table that holds the name alone.

JSON and TOML differ in `Conventions`.
-/

/-- What a data format accepts beyond the plain form of a record or case. -/
structure Conventions where
  /-- A list may be longer than the record has fields. -/
  allowsSurplus : Bool
  /-- What may stand beside the name of a case in a table. -/
  isCaseContent : Datum → Bool

namespace Conventions

def json : Conventions where
  allowsSurplus := false
  isCaseContent
    | .null => true
    | _ => false

def toml : Conventions where
  allowsSurplus := true
  isCaseContent
    | .list items => items.isEmpty
    | .table entries => entries.isEmpty
    | _ => false

/-- The name of a case. -/
def case? (conventions : Conventions) : Datum → Option String
  | .text name => some name
  | .table [(name, content)] => if conventions.isCaseContent content then some name else none
  | _ => none

end Conventions

structure Field where
  name : String
  /-- Other names for the same field. -/
  aliases : List String
  deriving DecidableEq, Repr

/-- A field that has one name. -/
def Field.plain (name : String) : Field := ⟨name, []⟩

def Field.isNamed (f : Field) (name : String) : Bool :=
  f.name == name || f.aliases.contains name

/-- The values of a record's fields, each under the first name of the field. -/
abbrev Record := List (String × Datum)

namespace Record

/-- The entries that belong to a field. -/
def known (fields : List Field) (entries : List (String × Datum)) : Record :=
  entries.filterMap fun (key, value) =>
    (fields.find? (·.isNamed key)).map fun field => (field.name, value)

/-- A record from a datum. A field may occur once, under one of its names. Other entries are
left out, or refused where the record is `closed`. -/
def read? (conventions : Conventions) (fields : List Field) (closed : Bool) (d : Datum) :
    Option Record :=
  match d with
  | .list items =>
    if conventions.allowsSurplus || items.length ≤ fields.length then
      some ((fields.map (·.name)).zip items)
    else none
  | d => do
    let entries ← d.entries?
    let record := known fields entries
    if closed && record.length != entries.length then none
    else if (record.map (·.1)).Nodup then some record
    else none

/-- A field that must be present. -/
def required? {α : Type} (record : Record) (name : String) (read : Datum → Option α) : Option α :=
  record.lookup name >>= read

/-- A field that takes `value` when it is missing. -/
def default? {α : Type} (record : Record) (name : String) (value : α) (read : Datum → Option α) :
    Option α :=
  match record.lookup name with
  | none => some value
  | some d => read d

/-- A field that may be missing or null. -/
def optional? {α : Type} (record : Record) (name : String) (read : Datum → Option α) :
    Option (Option α) :=
  record.default? name none (·.optional? read)

end Record

end CallPolicy
