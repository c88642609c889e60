import CallPolicy.Data.Datum
import CallPolicy.Toml.Scan

namespace CallPolicy.Toml

/-!
# Numbers, booleans and moments in TOML

* `integer?`, `float?`, `moment?` — the values written without quotes.
* `scalar?` — any of them, read as far as its characters go.
-/

/-! ### Integers -/

/-- Digits with single underscores between them; the underscores go. -/
def ungroup? (isDigit : Char → Bool) (afterDigit : Bool) : List Char → Option (List Char)
  | [] => if afterDigit then some [] else none
  | c :: rest =>
    if c = '_' then if afterDigit then ungroup? isDigit false rest else none
    else if isDigit c then (ungroup? isDigit true rest).map (c :: ·)
    else none

/-- A sign and the rest. -/
def splitSign : List Char → Bool × List Char
  | '-' :: rest => (true, rest)
  | '+' :: rest => (false, rest)
  | cs => (false, cs)

/-- The digits of a decimal integer without a sign. No zero stands in front of others. -/
def wholeDigits? (cs : List Char) : Option (List Char) :=
  match cs with
  | '0' :: _ :: _ => none
  | cs => ungroup? Char.isDigit false cs

/-- The integers of 64 bits. -/
def inRange? (n : Int) : Option Int :=
  if Int64.minValue.toInt ≤ n ∧ n ≤ Int64.maxValue.toInt then some n else none

/-- A natural number in another base. -/
def based? (base : Nat) (isDigit : Char → Bool) (cs : List Char) : Option Int :=
  (ungroup? isDigit false cs).bind fun digits => inRange? (natOfDigits base digits)

def integer? (cs : List Char) : Option Int :=
  match cs with
  | '0' :: 'x' :: rest => based? 16 isHexDigit rest
  | '0' :: 'o' :: rest => based? 8 (fun c => '0' ≤ c && c ≤ '7') rest
  | '0' :: 'b' :: rest => based? 2 (fun c => c == '0' || c == '1') rest
  | cs =>
    let (negative, digits) := splitSign cs
    (wholeDigits? digits).bind fun digits =>
      let n : Int := natOfDigits 10 digits
      inRange? (if negative then -n else n)

/-! ### Floats -/

/-- No double lies beyond `10 ^ decimalReach`, and none but zero below `10 ^ -decimalReach`. -/
def decimalReach : Nat := 400

/-- The double nearest to `significand · 10 ^ exponent`. -/
def nearestFloat (significand : Nat) (exponent : Int) : Float :=
  if significand = 0 then 0.0
  else
    let magnitude : Int := (Nat.toDigits 10 significand).length + exponent
    if (decimalReach : Int) < magnitude then 1.0 / 0.0
    else if magnitude < -(decimalReach : Int) then 0.0
    else Float.ofScientific significand (exponent < 0) exponent.natAbs

/-- The digits before and after a point, if there is one. -/
def mantissa? (cs : List Char) : Option (List Char × List Char) := do
  let whole ← wholeDigits? (cs.takeWhile (· != '.'))
  match cs.dropWhile (· != '.') with
  | [] => some (whole, [])
  | _ :: fraction =>
    let fraction ← ungroup? Char.isDigit false fraction
    some (whole, fraction)

def exponent? : List Char → Option Int
  | [] => some 0
  | _ :: cs =>
    let (negative, digits) := splitSign cs
    (ungroup? Char.isDigit false digits).map fun digits =>
      let n : Int := natOfDigits 10 digits
      if negative then -n else n

/-- A number with a point or an exponent, or one of the special values. A number too large is
refused, unless it is negative. -/
def float? (cs : List Char) : Option Float :=
  let (negative, magnitude) := splitSign cs
  if magnitude = ['i', 'n', 'f'] then some (if negative then -1.0 / 0.0 else 1.0 / 0.0)
  else if magnitude = ['n', 'a', 'n'] then some (0.0 / 0.0)
  else do
    let isMark := fun c : Char => c == 'e' || c == 'E'
    let (whole, fraction) ← mantissa? (magnitude.takeWhile (!isMark ·))
    let exponent ← exponent? (magnitude.dropWhile (!isMark ·))
    let x := nearestFloat (natOfDigits 10 (whole ++ fraction)) (exponent - fraction.length)
    if !magnitude.any (fun c => c == '.' || isMark c) then none
    else if negative then some (-x)
    else if x.isInf then none
    else some x

/-! ### Moments -/

/-- A number of `width` digits between two bounds. -/
def bounded? (width low high : Nat) (cs : List Char) : Option (Nat × List Char) :=
  let digits := cs.take width
  let n := natOfDigits 10 digits
  if digits.length = width ∧ digits.all Char.isDigit ∧ low ≤ n ∧ n ≤ high then
    some (n, cs.drop width)
  else none

/-- The rest after one character. -/
def expect? (expected : Char) : List Char → Option (List Char)
  | c :: rest => if c = expected then some rest else none
  | [] => none

def isLeap (year : Nat) : Bool :=
  year % 4 == 0 && (year % 100 != 0 || year % 400 == 0)

def daysIn (year month : Nat) : Nat :=
  if month = 2 then if isLeap year then 29 else 28
  else if month = 4 ∨ month = 6 ∨ month = 9 ∨ month = 11 then 30
  else 31

/-- The text of a number with at least `width` digits. -/
def padded (width n : Nat) : List Char :=
  let digits := Nat.toDigits 10 n
  List.replicate (width - digits.length) '0' ++ digits

/-- A date, in its standard form. -/
def date? : Scan (List Char) := fun cs => do
  let (year, cs) ← bounded? 4 0 9999 cs
  let cs ← expect? '-' cs
  let (month, cs) ← bounded? 2 1 12 cs
  let cs ← expect? '-' cs
  let (day, cs) ← bounded? 2 1 (daysIn year month) cs
  some (padded 4 year ++ '-' :: padded 2 month ++ '-' :: padded 2 day, cs)

/-- The digits of a fraction of a second that a moment keeps. -/
def secondPlaces : Nat := 9

/-- A fraction of a second, without the zeros at its end. -/
def secondFraction : List Char → List Char × List Char
  | '.' :: rest =>
    let digits := rest.takeWhile Char.isDigit
    if digits.isEmpty then ([], '.' :: rest)
    else
      let kept := ((digits.take secondPlaces).reverse.dropWhile (· == '0')).reverse
      (if kept.isEmpty then [] else '.' :: kept, rest.drop digits.length)
  | cs => ([], cs)

/-- A time of day, in its standard form. -/
def time? : Scan (List Char) := fun cs => do
  let (hour, cs) ← bounded? 2 0 23 cs
  let cs ← expect? ':' cs
  let (minute, cs) ← bounded? 2 0 59 cs
  let cs ← expect? ':' cs
  let (second, cs) ← bounded? 2 0 60 cs
  let (fraction, cs) := secondFraction cs
  some (padded 2 hour ++ ':' :: padded 2 minute ++ ':' :: padded 2 second ++ fraction, cs)

/-- The distance of a local time from universal time, in its standard form. -/
def offset? : Scan (List Char)
  | [] => some ([], [])
  | c :: rest =>
    if c = 'Z' ∨ c = 'z' then some (['Z'], rest)
    else if c = '+' ∨ c = '-' then do
      let (hour, rest) ← bounded? 2 0 23 rest
      let rest ← expect? ':' rest
      let (minute, rest) ← bounded? 2 0 59 rest
      let sign := if hour = 0 ∧ minute = 0 then '+' else c
      some (sign :: padded 2 hour ++ ':' :: padded 2 minute, rest)
    else none

/-- A time of day with an optional offset, and nothing after it. -/
def timeWithOffset? (cs : List Char) : Option (List Char) := do
  let (time, rest) ← time? cs
  let (offset, rest) ← offset? rest
  if rest.isEmpty then some (time ++ offset) else none

/-- A date, a date and a time, or a time, in its standard form. -/
def moment? (cs : List Char) : Option (List Char) :=
  match date? cs with
  | some (date, []) => some date
  | some (date, c :: rest) =>
    if c = 'T' ∨ c = 't' ∨ c = ' ' then (timeWithOffset? rest).map fun time => date ++ 'T' :: time
    else none
  | none =>
    match time? cs with
    | some (time, []) => some time
    | _ => none

/-! ### All of them -/

def isScalarChar (c : Char) : Bool :=
  c.isAlphanum || c == '+' || c == '-' || c == '.' || c == '_' || c == ':'

/-- The value that a run of characters spells. -/
def scalarOf? (cs : List Char) : Option Datum :=
  if cs = ['t', 'r', 'u', 'e'] then some (.bool true)
  else if cs = ['f', 'a', 'l', 's', 'e'] then some (.bool false)
  else
    match integer? cs with
    | some n => some (.int n)
    | none =>
      match float? cs with
      | some x => some (.float x)
      | none => (moment? cs).map fun moment => .moment (String.ofList moment)

/-- A value without quotes. A date may have a blank between it and a time. -/
def scalarValue? : Scan Datum := fun cs =>
  let first := cs.takeWhile isScalarChar
  let rest := cs.drop first.length
  let second :=
    match rest with
    | ' ' :: rest => rest.takeWhile isScalarChar
    | _ => []
  if (date? first).any (·.2.isEmpty) && !second.isEmpty then
    (scalarOf? (first ++ ' ' :: second)).map fun d => (d, rest.drop (second.length + 1))
  else (scalarOf? first).map fun d => (d, rest)

end CallPolicy.Toml
