namespace CallPolicy.Toml

/-!
# Scanning TOML

A `Scan` reads something at the start of a text and returns it with the rest of the text.

* `many` — as many things as there are.
* `skipSpace`, `skipBlank` — blanks on one line, and blanks, line ends and comments.
* `lineEnd?` — what may follow a value or a header on its line.
-/

/-- Reads a value at the start of a text. -/
abbrev Scan (α : Type) := List Char → Option (α × List Char)

/-- At most `fuel` items, and the rest of the text after them. The length of the text is fuel
enough, because an item takes up at least one character. -/
def many {α : Type} (item : Scan α) : Nat → List Char → List α × List Char
  | 0, cs => ([], cs)
  | fuel + 1, cs =>
    match item cs with
    | none => ([], cs)
    | some (x, rest) =>
      let (xs, rest) := many item fuel rest
      (x :: xs, rest)

/-- All the items at the start of a text. -/
def all {α : Type} (item : Scan α) (cs : List Char) : List α × List Char :=
  many item cs.length cs

/-! ### Characters -/

/-- A character that may stand in a text or a comment: any but control characters, which
include the delete character but not the tab. -/
def isPlain (c : Char) : Bool :=
  c == '\t' || (0x20 ≤ c.toNat && c.toNat != 0x7F)

def isSpace (c : Char) : Bool :=
  c == ' ' || c == '\t'

def isHexDigit (c : Char) : Bool :=
  c.isDigit || ('a' ≤ c && c ≤ 'f') || ('A' ≤ c && c ≤ 'F')

/-- The value of a digit of a base up to 16. -/
def digitValue (c : Char) : Nat :=
  if c.isDigit then c.toNat - '0'.toNat
  else if 'a' ≤ c then c.toNat - 'a'.toNat + 10
  else c.toNat - 'A'.toNat + 10

def natOfDigits (base : Nat) (digits : List Char) : Nat :=
  digits.foldl (fun n c => n * base + digitValue c) 0

/-! ### Space -/

def skipSpace (cs : List Char) : List Char :=
  cs.dropWhile isSpace

/-- The rest after a line end: a line feed, or a carriage return and a line feed. -/
def newline? : List Char → Option (List Char)
  | '\n' :: rest => some rest
  | '\r' :: '\n' :: rest => some rest
  | _ => none

/-- The rest after blanks and line ends. -/
def skipLines : List Char → List Char
  | [] => []
  | '\n' :: rest => skipLines rest
  | '\r' :: '\n' :: rest => skipLines rest
  | c :: rest => if isSpace c then skipLines rest else c :: rest

/-- The rest after a comment, if there is one. -/
def skipComment : List Char → List Char
  | '#' :: rest => rest.dropWhile isPlain
  | cs => cs

/-- The rest after blanks, a comment, and the end of the line or of the text. -/
def lineEnd? (cs : List Char) : Option (List Char) :=
  match skipComment (skipSpace cs) with
  | [] => some []
  | rest => newline? rest

/-- The rest after blanks, line ends and comments. -/
def skipBlankFrom (inComment : Bool) : List Char → List Char
  | [] => []
  | '\n' :: rest => skipBlankFrom false rest
  | '\r' :: '\n' :: rest => skipBlankFrom false rest
  | c :: rest =>
    if inComment then if isPlain c then skipBlankFrom true rest else c :: rest
    else if isSpace c then skipBlankFrom false rest
    else if c = '#' then skipBlankFrom true rest
    else c :: rest

def skipBlank (cs : List Char) : List Char :=
  skipBlankFrom false cs

end CallPolicy.Toml
