import CallPolicy.Json.Number

namespace CallPolicy.Json

/-!
# The tokens of JSON

`tokens?` cuts a text into tokens, one character after the other: `step` says what a character
does to the token that is being read, and which tokens it ends.
-/

inductive Token where
  | openList
  | closeList
  | openTable
  | closeTable
  | comma
  | colon
  /-- A word or a number. -/
  | scalar (d : Datum)
  /-- A string; one with half a surrogate pair has no text. -/
  | text (s : Option String)

/-! ### Strings -/

/-- Where a string is being read. -/
inductive StringMode where
  | plain
  | escape
  /-- In a `\u` escape, with the digits still to come and the value of those read. -/
  | hex (left : Nat) (value : Nat)
  deriving DecidableEq, Repr

/-- A string that is being read: its characters, last first, while it has any, and the first
half of a surrogate pair that waits for the second. -/
structure StringState where
  read : Option (List Char)
  half : Option Nat
  mode : StringMode
  deriving DecidableEq, Repr

namespace StringState

def start : StringState := ⟨some [], none, .plain⟩

/-- One more character. A half that waits for another stays alone. -/
def push (s : StringState) (c : Char) : StringState where
  read := if s.half.isSome then none else s.read.map (c :: ·)
  half := none
  mode := .plain

def isHighHalf (n : Nat) : Bool :=
  0xD800 ≤ n && n ≤ 0xDBFF

def isLowHalf (n : Nat) : Bool :=
  0xDC00 ≤ n && n ≤ 0xDFFF

/-- The code unit of a `\u` escape. -/
def pushUnit (s : StringState) (n : Nat) : StringState :=
  match s.half with
  | some high =>
    if isLowHalf n then
      let c := Char.ofNat (0x10000 + (high - 0xD800) * 0x400 + (n - 0xDC00))
      ⟨s.read.map (c :: ·), none, .plain⟩
    else ⟨none, none, .plain⟩
  | none =>
    if isHighHalf n then { s with half := some n, mode := .plain }
    else if isLowHalf n then ⟨none, none, .plain⟩
    else s.push (Char.ofNat n)

/-- The character of an escape of one letter. -/
def escaped? : Char → Option Char
  | '"' => some '"'
  | '\\' => some '\\'
  | '/' => some '/'
  | 'b' => some '\x08'
  | 'f' => some '\x0c'
  | 'n' => some '\n'
  | 'r' => some '\r'
  | 't' => some '\t'
  | _ => none

def hexValue? (c : Char) : Option Nat :=
  if c.isDigit then some (c.toNat - '0'.toNat)
  else if 'a' ≤ c && c ≤ 'f' then some (c.toNat - 'a'.toNat + 10)
  else if 'A' ≤ c && c ≤ 'F' then some (c.toNat - 'A'.toNat + 10)
  else none

/-- The string after a character that does not end it. -/
def step? (s : StringState) (c : Char) : Option StringState :=
  match s.mode with
  | .plain =>
    if c = '\\' then some { s with mode := .escape }
    else if c.toNat < 0x20 then none
    else some (s.push c)
  | .escape =>
    if c = 'u' then some { s with mode := .hex 4 0 } else (escaped? c).map s.push
  | .hex left value =>
    (hexValue? c).map fun d =>
      let value := value * 16 + d
      if left ≤ 1 then s.pushUnit value else { s with mode := .hex (left - 1) value }

def finish (s : StringState) : Option String :=
  if s.half.isSome then none else s.read.map fun cs => String.ofList cs.reverse

end StringState

/-! ### Texts -/

/-- The token that is being read. Words and numbers hold their characters, last first. -/
inductive LexState where
  | between
  | word (letters : List Char)
  | number (chars : List Char)
  | string (s : StringState)
  deriving DecidableEq, Repr

namespace LexState

def isSpace (c : Char) : Bool :=
  c == ' ' || c == '\t' || c == '\n' || c == '\r'

def isNumberChar (c : Char) : Bool :=
  c.isDigit || c == '-' || c == '+' || c == '.' || isExponentMark c

def wordToken? (letters : List Char) : Option Token :=
  if letters = ['n', 'u', 'l', 'l'] then some (.scalar .null)
  else if letters = ['t', 'r', 'u', 'e'] then some (.scalar (.bool true))
  else if letters = ['f', 'a', 'l', 's', 'e'] then some (.scalar (.bool false))
  else none

/-- The token that ends where its text ends. -/
def flush? : LexState → Option (List Token)
  | between => some []
  | word letters => (wordToken? letters.reverse).map fun t => [t]
  | number chars => (Numeral.ofChars? chars.reverse).map fun n => [.scalar n.datum]
  | string _ => none

/-- The state and the tokens after a character that starts a token. -/
def start? (c : Char) : Option (LexState × List Token) :=
  if isSpace c then some (between, [])
  else if c = '[' then some (between, [.openList])
  else if c = ']' then some (between, [.closeList])
  else if c = '{' then some (between, [.openTable])
  else if c = '}' then some (between, [.closeTable])
  else if c = ',' then some (between, [.comma])
  else if c = ':' then some (between, [.colon])
  else if c = '"' then some (string .start, [])
  else if c = '-' || c.isDigit then some (number [c], [])
  else if c.isAlpha then some (word [c], [])
  else none

/-- The state after a character, and the tokens that it ends. -/
def step? (s : LexState) (c : Char) : Option (LexState × List Token) :=
  match s with
  | string str =>
    if c = '"' ∧ str.mode = .plain then some (between, [.text str.finish])
    else (str.step? c).map fun str => (string str, [])
  | word letters =>
    if c.isAlpha then some (word (c :: letters), [])
    else do
      let ended ← s.flush?
      let (next, tokens) ← start? c
      some (next, ended ++ tokens)
  | number chars =>
    if isNumberChar c then some (number (c :: chars), [])
    else do
      let ended ← s.flush?
      let (next, tokens) ← start? c
      some (next, ended ++ tokens)
  | between => start? c

/-- The tokens of a text that follows what the state has read. -/
def run? (s : LexState) : List Char → Option (List Token)
  | [] => s.flush?
  | c :: rest => do
    let (next, tokens) ← s.step? c
    let more ← next.run? rest
    some (tokens ++ more)

end LexState

def tokens? (cs : List Char) : Option (List Token) :=
  LexState.between.run? cs

end CallPolicy.Json
