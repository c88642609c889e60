import CallPolicy.Text.Blank

namespace CallPolicy.Decimal

/-!
# The shortest decimal of a double

* `Binary` — a positive double as `mantissa · 2 ^ exponent`.
* `Interval` — the reals that round to it.
* `shortest` — the decimal with the fewest digits in the interval, and of those the nearest to
  the double.
* `positional` — a decimal written without an exponent.

Everything is computed with natural numbers.
-/

/-- The positive number `mantissa · 2 ^ exponent`, as the double format stores it. -/
structure Binary where
  mantissa : Nat
  exponent : Int
  deriving DecidableEq, Repr

/-- The number `digits · 10 ^ exponent`. -/
structure Numeral where
  digits : Nat
  exponent : Int
  deriving DecidableEq, Repr

/-! ### Doubles -/

/-- The bit of a mantissa that the double format leaves out. -/
def leadingBit : Nat := 1 <<< 52

/-- The magnitude of a finite double with the given bits. -/
def Binary.ofBits (bits : UInt64) : Binary :=
  let fraction : Nat := bits.toNat % leadingBit
  let biased : Nat := bits.toNat / leadingBit % 2048
  if biased = 0 then ⟨fraction, -1074⟩ else ⟨fraction + leadingBit, (biased : Int) - 1075⟩

/-- The sign bit. -/
def isNegative (x : Float) : Bool :=
  UInt64.size / 2 ≤ x.toBits.toNat

/-! ### The interval of a double -/

/-- A positive number `value / den` and the reals between `low / den` and `high / den`, with
both ends where `closed`. -/
structure Interval where
  den : Nat
  low : Nat
  value : Nat
  high : Nat
  closed : Bool
  deriving DecidableEq, Repr

/-- The reals that round to a double, an end rounding to the even mantissa. The double below a
power of two is at half the distance of the one above. -/
def Interval.ofBinary (b : Binary) : Interval :=
  let m := b.mantissa
  let down := if m = leadingBit ∧ b.exponent ≠ -1074 then 1 else 2
  let (num, den) :=
    if 2 ≤ b.exponent then (1 <<< (b.exponent - 2).toNat, 1)
    else (1, 1 <<< (2 - b.exponent).toNat)
  { den
    low := (4 * m - down) * num
    value := 4 * m * num
    high := (4 * m + 2) * num
    closed := m % 2 == 0 }

/-- The greatest `e` for which `10 ^ e` is at most the value. -/
def Interval.magnitude (i : Interval) : Int :=
  if i.den ≤ i.value then (Nat.toDigits 10 (i.value / i.den)).length - 1
  else -((Nat.toDigits 10 ((i.den - 1) / i.value)).length : Int)

/-! ### Grids of decimals -/

/-- The multiples of `10 ^ exponent`, seen from an interval: `n` stands for
`n · unit / (scale · den)`. -/
structure Grid where
  unit : Nat
  scale : Nat

def Interval.grid (i : Interval) (exponent : Int) : Grid :=
  if 0 ≤ exponent then ⟨i.den * Nat.pow 10 exponent.toNat, 1⟩
  else ⟨i.den, Nat.pow 10 (-exponent).toNat⟩

/-- The grid point `n` lies in the interval. -/
def Interval.holds (i : Interval) (g : Grid) (n : Nat) : Bool :=
  if i.closed then i.low * g.scale ≤ n * g.unit && n * g.unit ≤ i.high * g.scale
  else i.low * g.scale < n * g.unit && n * g.unit < i.high * g.scale

/-- The grid point nearest to the value, the greater of two. -/
def Interval.nearest (i : Interval) (g : Grid) : Nat :=
  let n := i.value * g.scale / g.unit
  if 2 * (i.value * g.scale % g.unit) < g.unit then n else n + 1

/-- The point of the grid in the interval that is nearest to the value. -/
def Interval.nearest? (i : Interval) (g : Grid) : Option Nat :=
  let n := i.value * g.scale / g.unit
  match i.holds g n, i.holds g (n + 1) with
  | true, true => some (i.nearest g)
  | true, false => some n
  | false, true => some (n + 1)
  | false, false => none

/-- The shortest decimal in the interval. With 17 digits the nearest one always is. -/
def Interval.shortest (i : Interval) : Numeral :=
  let exponents := (List.range 16).map fun n : Nat => i.magnitude - (n : Int)
  let found := exponents.findSome? fun e => (i.nearest? (i.grid e)).map (Numeral.mk · e)
  let finest := i.magnitude - 16
  found.getD ⟨i.nearest (i.grid finest), finest⟩

/-! ### Writing -/

/-- A decimal without an exponent: as many zeros as its place value needs, and no others. -/
def positional (d : Numeral) : List Char :=
  let digits := Nat.toDigits 10 d.digits
  if 0 ≤ d.exponent then digits ++ List.replicate d.exponent.toNat '0'
  else
    let places := (-d.exponent).toNat
    let padded := List.replicate (places + 1 - digits.length) '0' ++ digits
    let whole := padded.take (padded.length - places)
    let fraction := Text.dropTrailing (· == '0') (padded.drop (padded.length - places))
    if fraction.isEmpty then whole else whole ++ '.' :: fraction

/-- The shortest text that reads back as a finite double. -/
def finiteText (x : Float) : List Char :=
  let magnitude := if x == 0.0 then ['0'] else
    positional (Interval.ofBinary (Binary.ofBits x.toBits)).shortest
  if isNegative x then '-' :: magnitude else magnitude

/-- The text of a double, with `NaN` and `inf` for those that are not finite. -/
def text (x : Float) : String :=
  if x != x then "NaN"
  else if x.isInf then if isNegative x then "-inf" else "inf"
  else String.ofList (finiteText x)

example : finiteText 0.1 = ['0', '.', '1'] := by decide +kernel

example : finiteText 5e-324 = ['0', '.'] ++ List.replicate 323 '0' ++ ['5'] := by
  decide +kernel

example : finiteText (-9223372036854775808.0) = "-9223372036854776000".toList := by
  decide +kernel

end CallPolicy.Decimal
