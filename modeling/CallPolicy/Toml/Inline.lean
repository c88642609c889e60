import CallPolicy.Data.Datum
import CallPolicy.Decimal.Shortest
import CallPolicy.Toml.Text

namespace CallPolicy.Toml

/-!
# Writing TOML values

`inline` writes a value the way it may stand after a key. Texts are written without escapes where
some quotes allow that, and tables in the order of their keys.
-/

/-! ### Quotes -/

/-- How a text is quoted. -/
inductive Quotes where
  /-- In double quotes, with escapes. -/
  | basic
  /-- In single quotes, without escapes. -/
  | literal
  /-- In three double quotes, with escapes. -/
  | longBasic
  /-- In three single quotes, without escapes. -/
  | longLiteral
  deriving DecidableEq, Repr

namespace Quotes

def isLong (q : Quotes) : Bool :=
  q == longBasic || q == longLiteral

def isLiteral (q : Quotes) : Bool :=
  q == literal || q == longLiteral

/-- What stands on either side of the text. -/
def mark (q : Quotes) : List Char :=
  List.replicate (if q.isLong then 3 else 1) (if q.isLiteral then '\'' else '"')

end Quotes

/-- The length of the longest run of a character in a text that follows `run` of them. -/
def longestRun (a : Char) (run : Nat) : List Char → Nat
  | [] => run
  | c :: rest => if c = a then longestRun a (run + 1) rest else max run (longestRun a 0 rest)

/-- A character that only an escape can write. -/
def needsEscape (c : Char) : Bool :=
  c != '\n' && !isPlain c

/-- A text that can be written between such quotes without an escape. A tab counts as one that
needs none. -/
def Quotes.suits (cs : List Char) : Quotes → Bool
  | basic => !cs.any needsEscape && !cs.contains '\\' && !cs.contains '"' && !cs.contains '\n'
  | literal => !cs.any needsEscape && !cs.contains '\'' && !cs.contains '\n'
  | longBasic => !cs.any needsEscape && !cs.contains '\\' && longestRun '"' 0 cs ≤ 2
  | longLiteral => !cs.any needsEscape && longestRun '\'' 0 cs ≤ 2

/-- The quotes of a text: the first that suit it, else those that take escapes. -/
def quotesOf (cs : List Char) : Quotes :=
  match [Quotes.basic, .literal, .longBasic, .longLiteral].find? (·.suits cs) with
  | some q => q
  | none => if cs.contains '\n' then .longBasic else .basic

/-! ### Texts -/

def upperHex (width n : Nat) : List Char :=
  let digits := (Nat.toDigits 16 n).map Char.toUpper
  List.replicate (width - digits.length) '0' ++ digits

/-- A character, other than a double quote, in double quotes. -/
def escapeChar (isLong : Bool) (c : Char) : List Char :=
  match c with
  | '\x08' => ['\\', 'b']
  | '\t' => ['\\', 't']
  | '\n' => if isLong then ['\n'] else ['\\', 'n']
  | '\x0c' => ['\\', 'f']
  | '\r' => ['\\', 'r']
  | '\\' => ['\\', '\\']
  | _ => if isPlain c then [c] else '\\' :: 'u' :: upperHex 4 c.toNat

/-- A text in double quotes. `run` double quotes without escapes stand before it; between three
quotes up to two may stand in a row. -/
def escape (isLong : Bool) (run : Nat) : List Char → List Char
  | [] => []
  | '"' :: rest =>
    if isLong && run < 2 then '"' :: escape isLong (run + 1) rest
    else '\\' :: '"' :: escape isLong 0 rest
  | c :: rest => escapeChar isLong c ++ escape isLong 0 rest

/-- A text between given quotes. A line end follows three quotes before a text of several
lines. -/
def quoteWith (q : Quotes) (cs : List Char) : List Char :=
  let start := if q.isLong && cs.contains '\n' then ['\n'] else []
  let body := if q.isLiteral then cs else escape q.isLong 0 cs
  q.mark ++ start ++ body ++ q.mark

def quote (cs : List Char) : List Char :=
  quoteWith (quotesOf cs) cs

/-- A key, without quotes where it needs none. -/
def keyText (key : String) : List Char :=
  let cs := key.toList
  if !cs.isEmpty && cs.all isBareKeyChar then cs
  else quoteWith (if Quotes.literal.suits cs && !Quotes.basic.suits cs then .literal else .basic) cs

/-! ### Numbers -/

/-- A double; a whole one is written with `.0`. -/
def floatText (x : Float) : List Char :=
  if x != x then ['n', 'a', 'n']
  else if x.isInf then if Decimal.isNegative x then ['-', 'i', 'n', 'f'] else ['i', 'n', 'f']
  else
    let text := Decimal.finiteText x
    if text.contains '.' then text else text ++ ['.', '0']

/-! ### Values -/

/-- Entries of a table between braces. -/
def braces (entries : List (List Char)) : List Char :=
  if entries.isEmpty then ['\x7b', '\x7d']
  else ['\x7b', ' '] ++ [',', ' '].intercalate entries ++ [' ', '\x7d']

def entryText (key : String) (value : List Char) : List Char :=
  keyText key ++ [' ', '=', ' '] ++ value

mutual

def inlineChars : Datum → List Char
  | .null | .unreadable => []
  | .bool b => if b then ['t', 'r', 'u', 'e'] else ['f', 'a', 'l', 's', 'e']
  | .int n => (toString n).toList
  | .float x => floatText x
  | .text s => quote s.toList
  | .moment s => s.toList
  | .list items => '[' :: [',', ' '].intercalate (inlineItems items) ++ [']']
  | .table entries =>
    braces ((Datum.sortByKey (inlineEntries entries)).map fun (key, value) => entryText key value)

def inlineItems : List Datum → List (List Char)
  | [] => []
  | item :: items => inlineChars item :: inlineItems items

/-- The keys with the texts of their values. -/
def inlineEntries : List (String × Datum) → List (String × List Char)
  | [] => []
  | (key, value) :: entries => (key, inlineChars value) :: inlineEntries entries

end

/-- A value on its own. A moment that is not part of another value is written as a table. -/
def inline (d : Datum) : String :=
  String.ofList <|
    match d with
    | .moment s => braces [entryText Datum.momentKey (quote s.toList)]
    | d => inlineChars d

end CallPolicy.Toml
