import CallPolicy.Data.Datum
import CallPolicy.Decimal.Shortest

namespace CallPolicy.Json

/-!
# Writing JSON

* `quote` — a JSON string.
* `compact` — a value on one line, without spaces.
* `pretty` — a value with a line for each member, indented by two spaces.
-/

/-! ### Scalars -/

def hexDigits (width n : Nat) : List Char :=
  let digits := Nat.toDigits 16 n
  List.replicate (width - digits.length) '0' ++ digits

/-- A character of a string. Quotes, backslashes and control characters are escaped. -/
def escape (c : Char) : List Char :=
  match c with
  | '"' => ['\\', '"']
  | '\\' => ['\\', '\\']
  | '\x08' => ['\\', 'b']
  | '\x0c' => ['\\', 'f']
  | '\n' => ['\\', 'n']
  | '\r' => ['\\', 'r']
  | '\t' => ['\\', 't']
  | _ => if c.toNat < 0x20 then '\\' :: 'u' :: hexDigits 4 c.toNat else [c]

def quote (s : String) : List Char :=
  '"' :: s.toList.flatMap escape ++ ['"']

/-- A double; a whole one is written with `.0`. JSON has no text for those that are not
finite. -/
def number (x : Float) : List Char :=
  if x != x || x.isInf then ['n', 'u', 'l', 'l']
  else
    let text := Decimal.finiteText x
    if text.contains '.' then text else text ++ ['.', '0']

/-! ### Values -/

/-- The text between a bracket and a member at a depth. -/
def lineBreak (layout : Option Nat) (depth : Nat) : List Char :=
  match layout with
  | none => []
  | some width => '\n' :: List.replicate (width * depth) ' '

/-- Members at a depth between two brackets. -/
def enclose (layout : Option Nat) (depth : Nat) (first last : Char) (members : List (List Char)) :
    List Char :=
  if members.isEmpty then [first, last]
  else
    let separator := ',' :: lineBreak layout (depth + 1)
    first :: lineBreak layout (depth + 1) ++ separator.intercalate members ++
      lineBreak layout depth ++ [last]

mutual

/-- A value at a depth. `layout` is the width of one indentation, or `none` for one line. -/
def write (layout : Option Nat) (depth : Nat) : Datum → List Char
  | .null | .unreadable => ['n', 'u', 'l', 'l']
  | .bool b => if b then ['t', 'r', 'u', 'e'] else ['f', 'a', 'l', 's', 'e']
  | .int n => (toString n).toList
  | .float x => number x
  | .text s | .moment s => quote s
  | .list items => enclose layout depth '[' ']' (writeItems layout (depth + 1) items)
  | .table entries => enclose layout depth '\x7b' '\x7d' (writeEntries layout (depth + 1) entries)

def writeItems (layout : Option Nat) (depth : Nat) : List Datum → List (List Char)
  | [] => []
  | item :: items => write layout depth item :: writeItems layout depth items

def writeEntries (layout : Option Nat) (depth : Nat) : List (String × Datum) → List (List Char)
  | [] => []
  | (key, value) :: entries =>
    let colon := if layout.isSome then [':', ' '] else [':']
    (quote key ++ colon ++ write layout depth value) :: writeEntries layout depth entries

end

def compact (d : Datum) : String :=
  String.ofList (write none 0 d)

def pretty (d : Datum) : String :=
  String.ofList (write (some 2) 0 d)

end CallPolicy.Json
