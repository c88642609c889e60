import CallPolicy.Toml.Scalar
import CallPolicy.Toml.Table
import CallPolicy.Toml.Text

namespace CallPolicy.Toml

/-!
# Values in TOML

`value? depth` reads any value in which lists and inline tables are nested at most `depth`
deep.
-/

/-- The rest after a comma, and the item after that. -/
def afterComma {α : Type} (item : Scan α) : Scan α
  | ',' :: rest => item rest
  | _ => none

/-- The items of a list, after its bracket. Blanks, line ends and comments may stand anywhere
between them, and a comma after the last. -/
def items? (item : Scan Datum) : Scan Datum := fun cs =>
  let padded : Scan Datum := fun cs =>
    (item (skipBlank cs)).map fun (d, rest) => (d, skipBlank rest)
  let (items, rest) :=
    match padded cs with
    | none => ([], cs)
    | some (first, rest) =>
      let (more, rest) := all (afterComma padded) rest
      match rest with
      | ',' :: rest => (first :: more, rest)
      | rest => (first :: more, rest)
  match skipBlank rest with
  | ']' :: rest => some (.list items, rest)
  | _ => none

/-- A key and its value, on one line. -/
def pair? (value : Scan Datum) : Scan (List String × Datum) := fun cs => do
  let (key, rest) ← key? cs
  match rest with
  | '=' :: rest =>
    let (d, rest) ← value (skipSpace rest)
    some ((key, d), skipSpace rest)
  | _ => none

/-- The entries of an inline table, after its brace. -/
def entries? (value : Scan Datum) : Scan Datum := fun cs =>
  let (pairs, rest) :=
    match pair? value cs with
    | none => ([], cs)
    | some (first, rest) =>
      let (more, rest) := all (afterComma (pair? value)) rest
      (first :: more, rest)
  match skipSpace rest with
  | '}' :: rest =>
    (putAll? pairs []).map fun entries => (.table (entriesToData entries), rest)
  | _ => none

def value? : Nat → Scan Datum
  | 0, cs =>
    match text? cs with
    | some (text, rest) => some (.text text, rest)
    | none => scalarValue? cs
  | depth + 1, '[' :: rest => items? (value? depth) rest
  | depth + 1, '{' :: rest => entries? (value? depth) rest
  | _ + 1, cs =>
    match text? cs with
    | some (text, rest) => some (.text text, rest)
    | none => scalarValue? cs

/-- How deep the values of a document may be nested. -/
def nestingLimit : Nat := 79

end CallPolicy.Toml
