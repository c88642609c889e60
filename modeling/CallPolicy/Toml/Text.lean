import CallPolicy.Toml.Scan

namespace CallPolicy.Toml

/-!
# Texts and keys in TOML

* `text?` — the four kinds of text: in double quotes with escapes, in single quotes without,
  and either over several lines, in three quotes.
* `key?` — a dotted key.
-/

/-! ### Characters of texts -/

/-- The character with a code point, if there is one. -/
def scalar? (n : Nat) : Option Char :=
  if n < 0xD800 ∨ (0xDFFF < n ∧ n < 0x110000) then some (Char.ofNat n) else none

/-- The code point in `width` hexadecimal digits. -/
def hexScalar? (width : Nat) : Scan Char := fun cs =>
  let digits := cs.take width
  if digits.length = width ∧ digits.all isHexDigit then
    (scalar? (natOfDigits 16 digits)).map fun c => (c, cs.drop width)
  else none

/-- The character of an escape, after its backslash. -/
def escape? : Scan Char
  | 'b' :: rest => some ('\x08', rest)
  | 't' :: rest => some ('\t', rest)
  | 'n' :: rest => some ('\n', rest)
  | 'f' :: rest => some ('\x0c', rest)
  | 'r' :: rest => some ('\r', rest)
  | '"' :: rest => some ('"', rest)
  | '\\' :: rest => some ('\\', rest)
  | 'u' :: rest => hexScalar? 4 rest
  | 'U' :: rest => hexScalar? 8 rest
  | _ => none

/-- One character of a text on one line, written as itself. -/
def plain? (quote : Char) : Scan (List Char)
  | c :: rest => if isPlain c ∧ c ≠ quote then some ([c], rest) else none
  | [] => none

/-- One character of a text in double quotes. -/
def basicChar? : Scan (List Char)
  | '\\' :: rest => (escape? rest).map fun (c, rest) => ([c], rest)
  | cs => plain? '"' cs

/-- The rest after a backslash that joins its line to the next text on a later line. -/
def lineJoin? (cs : List Char) : Option (List Char) :=
  (newline? (skipSpace cs)).map skipLines

/-- One or two quotes that do not end a text over several lines, or a line end. -/
def looseQuotes? (quote : Char) : Scan (List Char) := fun cs =>
  let quotes := cs.takeWhile (· == quote)
  match quotes.length with
  | 0 => (newline? cs).map fun rest => (['\n'], rest)
  | 1 | 2 => some (quotes, cs.drop quotes.length)
  | _ => none

/-- One character of a text in three double quotes. -/
def longBasicChar? : Scan (List Char)
  | '\\' :: rest =>
    match lineJoin? rest with
    | some rest => some ([], rest)
    | none => basicChar? ('\\' :: rest)
  | cs =>
    match looseQuotes? '"' cs with
    | some result => some result
    | none => plain? '"' cs

/-- One character of a text in three single quotes. -/
def longLiteralChar? : Scan (List Char) := fun cs =>
  match looseQuotes? '\'' cs with
  | some result => some result
  | none => plain? '\'' cs

/-! ### Texts -/

/-- The characters up to the closing quote. -/
def closed? (quote : Char) (item : Scan (List Char)) : Scan (List Char) := fun cs =>
  let (pieces, rest) := all item cs
  match rest with
  | c :: rest => if c = quote then some (pieces.flatten, rest) else none
  | [] => none

/-- The characters up to the three closing quotes. Up to two quotes before these belong to the
text. -/
def longClosed? (quote : Char) (item : Scan (List Char)) : Scan (List Char) := fun cs =>
  let (pieces, rest) := all item ((newline? cs).getD cs)
  let quotes := (rest.takeWhile (· == quote)).length
  if 3 ≤ quotes ∧ quotes ≤ 5 then
    some (pieces.flatten ++ List.replicate (quotes - 3) quote, rest.drop quotes)
  else none

/-- A text on one line. -/
def shortText? : Scan (List Char)
  | '"' :: rest => closed? '"' basicChar? rest
  | '\'' :: rest => closed? '\'' (plain? '\'') rest
  | _ => none

def text? : Scan String := fun cs =>
  let result :=
    match cs with
    | '"' :: '"' :: '"' :: rest => longClosed? '"' longBasicChar? rest
    | '\'' :: '\'' :: '\'' :: rest => longClosed? '\'' longLiteralChar? rest
    | cs => shortText? cs
  result.map fun (text, rest) => (String.ofList text, rest)

/-! ### Keys -/

def isBareKeyChar (c : Char) : Bool :=
  c.isAlphanum || c == '_' || c == '-'

/-- One part of a key, with the blanks around it. -/
def keyPart? : Scan String := fun cs =>
  let cs := skipSpace cs
  let result :=
    match shortText? cs with
    | some result => some result
    | none =>
      let bare := cs.takeWhile isBareKeyChar
      if bare.isEmpty then none else some (bare, cs.drop bare.length)
  result.map fun (part, rest) => (String.ofList part, skipSpace rest)

/-- The number of parts that a key has fewer of. -/
def keyLimit : Nat := 80

/-- The parts of a dotted key. -/
def key? : Scan (List String) := fun cs => do
  let (first, rest) ← keyPart? cs
  let (more, rest) := all (fun cs =>
    match cs with
    | '.' :: cs => keyPart? cs
    | _ => none) rest
  if more.length + 1 < keyLimit then some (first :: more, rest) else none

end CallPolicy.Toml
