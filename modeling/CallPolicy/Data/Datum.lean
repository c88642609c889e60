namespace CallPolicy

/-!
# Data documents

`Datum` is the content of a JSON or TOML document, whatever it is written in. Tables keep
their entries in the order of the text, repeated keys included.
-/

inductive Datum where
  | null
  | bool (b : Bool)
  | int (n : Int)
  | float (x : Float)
  | text (s : String)
  /-- A date, a time of day, or both, in its standard form. -/
  | moment (s : String)
  /-- A well-formed literal without a value, such as a number beyond the greatest double. -/
  | unreadable
  | list (items : List Datum)
  | table (entries : List (String × Datum))

namespace Datum

/-! ### Reading whole values -/

mutual

/-- Every literal has a value, and lists and tables are nested at most `depth` deep. -/
def isReadable (depth : Nat) : Datum → Bool
  | unreadable => false
  | list items => match depth with
    | 0 => false
    | depth + 1 => areReadable depth items
  | table entries => match depth with
    | 0 => false
    | depth + 1 => entriesAreReadable depth entries
  | _ => true

def areReadable (depth : Nat) : List Datum → Bool
  | [] => true
  | item :: items => isReadable depth item && areReadable depth items

def entriesAreReadable (depth : Nat) : List (String × Datum) → Bool
  | [] => true
  | (_, value) :: entries => isReadable depth value && entriesAreReadable depth entries

end

/-! ### Order of entries -/

/-- An entry among entries that are in the order of their keys, behind those with its own. -/
def insertByKey {α : Type} (entry : String × α) : List (String × α) → List (String × α)
  | [] => [entry]
  | first :: rest =>
    if entry.1 < first.1 then entry :: first :: rest else first :: insertByKey entry rest

/-- The entries in the order of their keys, character by character. -/
def sortByKey {α : Type} (entries : List (String × α)) : List (String × α) :=
  entries.foldl (fun sorted entry => insertByKey entry sorted) []

/-! ### Reading parts -/

/-- The key under which a moment is shown as a table. -/
def momentKey : String := "$__toml_private_datetime"

/-- The entries of a table; a moment passes for a table of one entry. -/
def entries? : Datum → Option (List (String × Datum))
  | table entries => some entries
  | moment s => some [(momentKey, text s)]
  | _ => none

def text? : Datum → Option String
  | text s => some s
  | _ => none

/-- An unsigned integer of 64 bits. -/
def word? : Datum → Option UInt64
  | int n => if 0 ≤ n ∧ n.toNat < UInt64.size then some (UInt64.ofNat n.toNat) else none
  | _ => none

/-- A list whose items can all be read. -/
def listOf? {α : Type} (read : Datum → Option α) : Datum → Option (List α)
  | list items => items.mapM read
  | _ => none

/-- A value that may be missing; null counts as missing. -/
def optional? {α : Type} (read : Datum → Option α) : Datum → Option (Option α)
  | null => some none
  | d => (read d).map some

end Datum

end CallPolicy
