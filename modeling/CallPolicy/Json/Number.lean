import CallPolicy.Data.Datum
import CallPolicy.Text.Split

namespace CallPolicy.Json

/-!
# Numbers in JSON

* `Numeral.ofChars?` — the grammar of numbers.
* `Numeral.datum` — their value: an integer where 64 bits hold it, or else a double.

The value of a double is the product or quotient of its first digits, as many as fit 64 bits,
and a power of ten. Each of the two is rounded, and so is the result.
-/

/-- A number, taken apart. -/
structure Numeral where
  negative : Bool
  whole : List Char
  /-- The digits after the point. -/
  fraction : Option (List Char)
  /-- The sign and the digits of the exponent. -/
  exponent : Option (Bool × List Char)
  deriving DecidableEq, Repr

/-- The greatest unsigned integer of 64 bits. -/
def maxWord : Nat := UInt64.size - 1

/-! ### Grammar -/

/-- Some digits, no zero in front of others. -/
def isWhole : List Char → Bool
  | [] => false
  | [_] => true
  | c :: _ => c != '0'

def isExponentMark (c : Char) : Bool :=
  c == 'e' || c == 'E'

/-- An exponent after its mark. -/
def exponentOfChars? (cs : List Char) : Option (Bool × List Char) :=
  let (negative, digits) :=
    match cs with
    | '-' :: rest => (true, rest)
    | '+' :: rest => (false, rest)
    | rest => (false, rest)
  if !digits.isEmpty && digits.all Char.isDigit then some (negative, digits) else none

/-- What follows the whole part and the fraction of a number. -/
def Numeral.withExponent? (n : Numeral) : List Char → Option Numeral
  | [] => some n
  | mark :: rest =>
    if isExponentMark mark then (exponentOfChars? rest).map fun e => { n with exponent := some e }
    else none

def Numeral.ofChars? (cs : List Char) : Option Numeral :=
  let (negative, cs) :=
    match cs with
    | '-' :: rest => (true, rest)
    | rest => (false, rest)
  let whole := cs.takeWhile Char.isDigit
  let numeral : Numeral := { negative, whole, fraction := none, exponent := none }
  if isWhole whole then
    match cs.dropWhile Char.isDigit with
    | '.' :: rest =>
      let fraction := rest.takeWhile Char.isDigit
      if fraction.isEmpty then none
      else { numeral with fraction := some fraction }.withExponent? (rest.dropWhile Char.isDigit)
    | rest => numeral.withExponent? rest
  else none

/-! ### Values -/

def digitValue (c : Char) : Nat :=
  c.toNat - '0'.toNat

/-- Appends digits to `significand` while 64 bits hold it; the second part counts the digits
that are left over. -/
def appendDigits (significand : Nat) : List Char → Nat × Nat
  | [] => (significand, 0)
  | c :: rest =>
    let next := significand * 10 + digitValue c
    if next ≤ maxWord then appendDigits next rest else (significand, (c :: rest).length)

/-- The value of digits in base ten. -/
def natOfDigits (digits : List Char) : Nat :=
  digits.foldl (fun n c => n * 10 + digitValue c) 0

def powerOfTen (n : Nat) : Float :=
  Float.ofScientific 1 false n

/-- The greatest power of ten that is a double. -/
def maxPower : Nat := 308

/-- `x / 10 ^ n`, by powers of ten that are doubles. -/
def divideByPower (x : Float) (n : Nat) : Float :=
  if n ≤ maxPower then x / powerOfTen n
  else if x == 0.0 then x
  else divideByPower (x / powerOfTen maxPower) (n - maxPower)
termination_by n
decreasing_by simp [maxPower] at *; omega

/-- `significand · 10 ^ exponent`, where it is finite. -/
def scaled? (significand : Nat) (exponent : Int) : Option Float :=
  let x := Float.ofNat significand
  if exponent < 0 then some (divideByPower x (-exponent).toNat)
  else if maxPower < exponent.toNat then if x == 0.0 then some x else none
  else
    let y := x * powerOfTen exponent.toNat
    if y.isInf then none else some y

/-- The integer with a sign and a magnitude below `2 ^ 64`. Minus zero is a double, as are
negative integers below those of 64 bits. -/
def integerDatum (negative : Bool) (magnitude : Nat) : Datum :=
  if !negative then .int magnitude
  else if 0 < magnitude ∧ magnitude ≤ UInt64.size / 2 then .int (-magnitude)
  else .float (-Float.ofNat magnitude)

def Numeral.datum (n : Numeral) : Datum :=
  let (significand, dropped) := appendDigits 0 n.whole
  if n.fraction.isNone && n.exponent.isNone && dropped == 0 then
    integerDatum n.negative significand
  else
    let fraction := n.fraction.getD []
    let (significand, ignored) := appendDigits significand fraction
    let shift : Int :=
      match n.exponent with
      | none => 0
      | some (negative, digits) => if negative then -natOfDigits digits else natOfDigits digits
    match scaled? significand (dropped - (fraction.length - ignored : Nat) + shift) with
    | some x => .float (if n.negative then -x else x)
    | none => .unreadable

end CallPolicy.Json
