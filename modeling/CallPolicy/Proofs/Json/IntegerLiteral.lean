import CallPolicy.Call.Document
import CallPolicy.Proofs.Doubles
import CallPolicy.Proofs.Json.Digits

namespace CallPolicy

/-!
# Integers in call sites

An integer of 64 bits is read as itself. Any other is read as a double, and so is minus zero.

* `Json.IntegerLiteral` — an integer as it is written.
* `Json.IntegerLiteral.Fits` — it is read as an integer.
* `Json.IntegerLiteral.read_of_fits`, `Json.IntegerLiteral.read_of_not_fits` — what it is read as.
* `Json.IntegerLiteral.double?_eq`, `Json.IntegerLiteral.isNaN_of_double?` — one integer is rounded
  to one double, which is a number.
-/

/-- The integers of 64 bits. -/
def InRange (n : Int) : Prop :=
  Int64.minValue.toInt ≤ n ∧ n ≤ Int64.maxValue.toInt

theorem inRange_iff (n : Int) :
    InRange n ↔ -9223372036854775808 ≤ n ∧ n ≤ 9223372036854775807 :=
  Iff.rfl

instance (n : Int) : Decidable (InRange n) :=
  inferInstanceAs (Decidable (_ ∧ _))

theorem Argument.ofInt_of_inRange {n : Int} (h : InRange n) : ofInt n = int (Int64.ofInt n) :=
  if_pos h

theorem Argument.ofInt_of_not_inRange {n : Int} (h : ¬ InRange n) :
    ofInt n = float (Float.ofInt n) :=
  if_neg h

namespace Json

/-- An integer as it is written: a sign or none, and digits, with no zero in front of others. -/
structure IntegerLiteral where
  negative : Bool
  digits : List Char
  isDigit : ∀ c ∈ digits, c.isDigit = true
  isWhole : isWhole digits = true

namespace IntegerLiteral

variable (l : IntegerLiteral)

def text : List Char :=
  (if l.negative then ['-'] else []) ++ l.digits

/-- The integer that is written. -/
def value : Int :=
  if l.negative then -natOfDigits l.digits else natOfDigits l.digits

/-- The argument that the literal is read as in a text in which `depth` lists and tables are open
around it. -/
def read (depth : Nat) : Option Argument :=
  parse? l.text >>= readArgument? depth

/-- The double that the literal is rounded to, where it is finite. -/
def double? : Option Float :=
  let (significand, dropped) := appendDigits 0 l.digits
  (if dropped = 0 then some (Float.ofNat significand) else scaled? significand dropped).map fun x =>
    if l.negative then -x else x

def IsMinusZero : Prop :=
  l.negative = true ∧ l.value = 0

/-- The literal is read as an integer. -/
def Fits : Prop :=
  InRange l.value ∧ ¬ l.IsMinusZero

instance : Decidable l.IsMinusZero :=
  inferInstanceAs (Decidable (_ ∧ _))

instance : Decidable l.Fits :=
  inferInstanceAs (Decidable (_ ∧ _))

def numeral : Numeral :=
  ⟨l.negative, l.digits, none, none⟩

theorem natAbs_value : l.value.natAbs = natOfDigits l.digits := by
  unfold value
  split <;> omega

/-- A literal is one token. -/
theorem parse?_text : parse? l.text = some l.numeral.datum := by
  have hchars : Numeral.ofChars? l.text = some l.numeral :=
    Numeral.ofChars?_digits l.isDigit l.isWhole l.negative
  have hnumber : ∀ c ∈ l.digits, LexState.isNumberChar c = true :=
    fun c hc => isNumberChar_of_isDigit (l.isDigit c hc)
  have htoken : IsTokenText l.text (.scalar l.numeral.datum) := by
    unfold text at hchars ⊢
    cases hnegative : l.negative with
    | true =>
      rw [hnegative] at hchars
      exact isTokenText_number rfl hnumber hchars
    | false =>
      rw [hnegative] at hchars
      have hwhole := l.isWhole
      have hdigit := l.isDigit
      generalize l.digits = digits at *
      cases digits with
      | nil => cases hwhole
      | cons c rest =>
        rw [List.forall_mem_cons] at hdigit hnumber
        exact isTokenText_number (by simp [hdigit.1]) hnumber.2 hchars
  have htokens := htoken [] nofun
  rw [List.append_nil] at htokens
  unfold parse?
  rw [htokens]
  rfl

theorem read_eq (depth : Nat) : l.read depth = readArgument? depth l.numeral.datum := by
  rw [read, parse?_text]
  rfl

/-- An integer that 64 bits hold, with or without a sign, is kept in full. -/
theorem datum_of_le (h : natOfDigits l.digits ≤ maxWord) :
    l.numeral.datum = integerDatum l.negative (natOfDigits l.digits) ∧
      appendDigits 0 l.digits = (natOfDigits l.digits, 0) := by
  rw [natOfDigits_eq] at h ⊢
  have happend := appendDigits_eq h
  refine ⟨?_, happend⟩
  unfold numeral Numeral.datum
  dsimp only
  rw [happend]
  rfl

theorem read_of_fits (h : l.Fits) (depth : Nat) :
    l.read depth = some (.int (Int64.ofInt l.value)) := by
  obtain ⟨hrange, hzero⟩ := h
  have habs := l.natAbs_value
  have hbounds := (inRange_iff _).1 hrange
  have hword : natOfDigits l.digits ≤ maxWord := by
    show _ ≤ 18446744073709551615
    omega
  have hdatum : l.numeral.datum = .int l.value := by
    rw [(l.datum_of_le hword).1]
    unfold integerDatum
    cases hnegative : l.negative with
    | false =>
      have hvalue : l.value = natOfDigits l.digits := by simp [value, hnegative]
      rw [hvalue]
      rfl
    | true =>
      have hvalue : l.value = -natOfDigits l.digits := by simp [value, hnegative]
      have hpos : l.value ≠ 0 := fun h => hzero ⟨hnegative, h⟩
      have hfits : 0 < natOfDigits l.digits ∧ natOfDigits l.digits ≤ UInt64.size / 2 := by
        show _ ∧ _ ≤ 9223372036854775808
        omega
      rw [if_neg (by decide), if_pos hfits, hvalue]
  rw [read_eq, hdatum]
  exact congrArg some (Argument.ofInt_of_inRange hrange)

theorem read_of_not_fits (h : ¬ l.Fits) (depth : Nat) : l.read depth = l.double?.map .float := by
  rw [read_eq]
  have habs := l.natAbs_value
  unfold Fits IsMinusZero at h
  rw [inRange_iff] at h
  by_cases hword : natOfDigits l.digits ≤ maxWord
  · -- The integer is kept in full first, and rounded later.
    obtain ⟨hdatum, happend⟩ := l.datum_of_le hword
    have hdouble : l.double? = some (if l.negative then -Float.ofNat (natOfDigits l.digits) else
        Float.ofNat (natOfDigits l.digits)) := by
      unfold double?
      rw [happend]
      rfl
    rw [hdatum, hdouble]
    unfold integerDatum
    cases hnegative : l.negative with
    | false =>
      have hvalue : l.value = natOfDigits l.digits := by simp [value, hnegative]
      have hlarge : ¬ InRange (natOfDigits l.digits) := by
        rw [inRange_iff, ← hvalue]
        intro hrange
        exact h ⟨hrange, fun hzero => absurd (hnegative.symm.trans hzero.1) (by decide)⟩
      exact congrArg some (Argument.ofInt_of_not_inRange hlarge)
    | true =>
      have hvalue : l.value = -natOfDigits l.digits := by simp [value, hnegative]
      have hlarge : ¬ (0 < natOfDigits l.digits ∧ natOfDigits l.digits ≤ UInt64.size / 2) := by
        show ¬ (_ ∧ _ ≤ 9223372036854775808)
        rintro ⟨hpos, hle⟩
        exact h ⟨by omega, fun hzero => by omega⟩
      rw [if_neg (by decide), if_neg hlarge]
      rfl
  · -- Digits are left over, for a power of ten.
    have hdropped : (appendDigits 0 l.digits).2 ≠ 0 := by
      rw [natOfDigits_eq] at hword
      exact appendDigits_snd_ne_zero (Nat.zero_le _) (Nat.not_le.1 hword)
    unfold double? numeral Numeral.datum
    generalize appendDigits 0 l.digits = appended at hdropped
    obtain ⟨significand, dropped⟩ := appended
    dsimp only at hdropped ⊢
    have hexact : ((dropped : Int) - ((0 - 0 : Nat) : Int) + 0) = dropped := by omega
    simp only [Option.isNone_none, Bool.true_and, beq_iff_eq, if_neg hdropped, Option.getD_none,
      appendDigits, List.length_nil, hexact]
    cases scaled? significand dropped with
    | none => rfl
    | some x => rfl

/-! ### Doubles of literals -/

/-- Literals of one integer have the same digits. -/
theorem digits_eq {l l' : IntegerLiteral} (h : l.value = l'.value) : l.digits = l'.digits := by
  rw [← toDigits_natOfDigits l.isDigit l.isWhole, ← toDigits_natOfDigits l'.isDigit l'.isWhole,
    ← natAbs_value, ← natAbs_value, h]

/-- Of the literals that do not fit, zero has a sign. -/
theorem negative_of_not_fits (h : ¬ l.Fits) : l.negative = decide (l.value ≤ 0) := by
  unfold Fits IsMinusZero at h
  rw [inRange_iff] at h
  rw [Bool.eq_iff_iff, decide_eq_true_eq]
  have hpositive : l.negative = false → 0 ≤ l.value := by
    intro hnegative
    simp [value, hnegative]
  have hminus : l.negative = true → l.value ≤ 0 := by
    intro hnegative
    simp [value, hnegative]
  refine ⟨hminus, fun hle => ?_⟩
  by_contra hnegative
  have hnonneg := hpositive (Bool.eq_false_iff.2 hnegative)
  exact h ⟨by omega, fun hzero => hnegative hzero.1⟩

/-- One integer is rounded to one double. -/
theorem double?_eq {l l' : IntegerLiteral} (hl : ¬ l.Fits) (hl' : ¬ l'.Fits)
    (h : l.value = l'.value) : l.double? = l'.double? := by
  unfold double?
  rw [digits_eq h, negative_of_not_fits l hl, negative_of_not_fits l' hl', h]

/-- No literal is read as NaN. -/
theorem isNaN_of_double? {l : IntegerLiteral} (hl : ¬ l.Fits) {x : Float}
    (hx : l.double? = some x) : x.isNaN = false := by
  have hleft := lt_of_appendDigits l.isDigit 0
  have hkept : (appendDigits 0 l.digits).2 = 0 →
      (appendDigits 0 l.digits).1 = natOfDigits l.digits := by
    intro hdropped
    have hword : Nat.ofDigitChars 10 l.digits 0 ≤ maxWord := by
      by_contra hlarge
      exact appendDigits_snd_ne_zero (Nat.zero_le _) (Nat.not_le.1 hlarge) hdropped
    rw [appendDigits_eq hword, natOfDigits_eq]
  unfold double? at hx
  generalize appendDigits 0 l.digits = appended at hx hleft hkept
  obtain ⟨significand, dropped⟩ := appended
  dsimp only at hx hleft hkept
  obtain ⟨y, hy, rfl⟩ := Option.map_eq_some_iff.1 hx
  have hnumber : y.isNaN = false := by
    split at hy
    case isTrue hdropped =>
      rw [hkept hdropped] at hy
      -- A literal of 64 bits that does not fit is minus zero, or beyond the mantissa of a double.
      by_cases hzero : natOfDigits l.digits = 0
      · rw [hzero] at hy
        exact Option.some.inj hy ▸ by decide +kernel
      · have hlarge : 2 ^ 53 ≤ natOfDigits l.digits := by
          have habs := l.natAbs_value
          unfold Fits IsMinusZero at hl
          rw [inRange_iff] at hl
          by_contra hsmall
          exact hl ⟨by omega, fun hminus => by omega⟩
        exact Option.some.inj hy ▸ Float64.isNaN_of_isNonzero (Float64.isNonzero_ofNat hlarge)
    case isFalse hdropped =>
      have hfull : 18446744073709551615 < significand * 10 + 10 := hleft hdropped
      exact isNaN_of_scaled? (by omega) hy
  split
  case isTrue => exact Float64.isNaN_neg hnumber
  case isFalse => exact hnumber

end IntegerLiteral

end Json

end CallPolicy
