import CallPolicy.Toml.Value

namespace CallPolicy.Toml

/-!
# TOML documents

`parse?` reads a text as a TOML document: lines with a key and a value, and headers, which say
into which table the lines after them go.
-/

/-- What a line says. -/
inductive Statement where
  | pair (key : List String) (d : Datum)
  | header (h : Header)
  /-- Nothing, or a comment. -/
  | blank

/-- The header that starts with one bracket, or with two. -/
def header? : Scan Header
  | '[' :: '[' :: rest => do
    let (path, rest) ← key? rest
    match rest with
    | ']' :: ']' :: rest => some (⟨path, true⟩, rest)
    | _ => none
  | '[' :: rest => do
    let (path, rest) ← key? rest
    match rest with
    | ']' :: rest => some (⟨path, false⟩, rest)
    | _ => none
  | _ => none

/-- One line, with its end. -/
def statement? : Scan Statement := fun cs =>
  let cs := skipSpace cs
  match cs with
  | [] => none
  | c :: _ =>
    if c = '#' ∨ c = '\n' ∨ c = '\r' then (lineEnd? cs).map fun rest => (.blank, rest)
    else if c = '[' then do
      let (h, rest) ← header? cs
      let rest ← lineEnd? rest
      some (.header h, rest)
    else do
      let ((key, d), rest) ← pair? (value? nestingLimit) cs
      let rest ← lineEnd? rest
      some (.pair key d, rest)

/-- The pairs before the first header, and each header with the pairs under it. -/
def sections : List Statement →
    List (List String × Datum) × List (Header × List (List String × Datum))
  | [] => ([], [])
  | .blank :: rest => sections rest
  | .pair key d :: rest =>
    let (pairs, more) := sections rest
    ((key, d) :: pairs, more)
  | .header h :: rest =>
    let (pairs, more) := sections rest
    ([], (h, pairs) :: more)

/-- The table that statements build up, in their order. -/
def build? (statements : List Statement) : Option Datum := do
  let (pairs, more) := sections statements
  let root ← putAll? pairs []
  let root ← more.foldlM (fun entries (h, pairs) => place? entries h pairs) root
  some (.table (entriesToData root))

/-- The byte order mark that a document may start with. -/
def byteOrderMark : Char := '\uFEFF'

def parse? (cs : List Char) : Option Datum :=
  let cs := if cs.head? = some byteOrderMark then cs.tail else cs
  let (statements, rest) := all statement? cs
  if (skipSpace rest).isEmpty then build? statements else none

end CallPolicy.Toml
