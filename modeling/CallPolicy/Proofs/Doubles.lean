import CallPolicy.Json.Number
import Mathlib

namespace CallPolicy

/-!
# Doubles of integers

An integer beyond 64 bits is read as the product of its first digits and a power of ten. A product
is NaN for zero and infinity only, and neither factor is zero: they are at least one, and there
rounding keeps all bits of a mantissa.

* `isNaN_ofModel_pack` — packing makes no NaN.
* `exists_roundWithAccuracy_eq` — what has as many bits as a mantissa is rounded to a number with
  all of them.
* `isNonzero_ofScientific`, `isNaN_mul` — so the double of a positive integer is not zero, and the
  product of two such doubles is a number.
* `Json.isNaN_of_scaled?` — integers beyond 64 bits are not read as NaN.
-/

open Float.Model

open UnpackedFloat (ExtendedMantissa Accuracy Sign)

namespace Float64

/-! ### Packing -/

/-- Unpacking gives NaN only for the exponent of NaN. -/
theorem isNaN_unpack_of_exponent {b : BitVec Format.binary64.numBits}
    (h : UnpackedFloat.unpackExponent b ≠ -1#_) :
    (UnpackedFloat.unpack .binary64 b).isNaN = false := by
  unfold UnpackedFloat.unpack
  dsimp only
  rw [if_neg h]
  split
  case isTrue => split <;> rfl
  case isFalse => rfl

/-- An exponent that does not overflow is not that of NaN. -/
theorem ofNat_exponent_ne {biased : Nat} (h : biased + 1 < 2048) :
    BitVec.ofNat 11 biased ≠ -1#11 := by
  intro heq
  have hvalue : biased % 2048 = 2047 := congrArg BitVec.toNat heq
  omega

theorem unpack_packedInfinity (s : Sign) :
    UnpackedFloat.unpack .binary64 (UnpackedFloat.packedInfinity .binary64 s) = .infinity s := by
  cases s <;> rfl

/-- Packing makes no NaN. -/
theorem isNaN_ofModel_pack {u : UnpackedFloat} (h : u.isNaN = false) :
    (Float.ofModel (pack u)).isNaN = false := by
  show (UnpackedFloat.unpack .binary64 (u.pack .binary64)).isNaN = false
  cases u with
  | notANumber => cases h
  | infinity s =>
    show (UnpackedFloat.unpack .binary64 (UnpackedFloat.packedInfinity .binary64 s)).isNaN = false
    rw [unpack_packedInfinity]
    rfl
  | zero s => cases s <;> rfl
  | finite s m e hm =>
    unfold UnpackedFloat.pack
    dsimp only
    split
    case isTrue =>
      rw [unpack_packedInfinity]
      rfl
    case isFalse hlt =>
      split
      case isTrue =>
        refine isNaN_unpack_of_exponent ?_
        rw [UnpackedFloat.unpackExponent_packComponents]
        exact ofNat_exponent_ne (Nat.not_le.1 hlt)
      case isFalse =>
        refine isNaN_unpack_of_exponent ?_
        rw [UnpackedFloat.unpackExponent_packComponents]
        decide

/-- Neither zero nor NaN. -/
def isNonzero (x : Float) : Bool :=
  match x.toModel.unpack with
  | .infinity _ | .finite .. => true
  | .zero _ | .notANumber => false

theorem isNaN_of_isNonzero {x : Float} (h : isNonzero x = true) : x.isNaN = false := by
  unfold isNonzero at h
  show x.toModel.unpack.isNaN = false
  cases hx : x.toModel.unpack with
  | notANumber =>
    rw [hx] at h
    cases h
  | infinity _ | zero _ | finite _ _ _ _ => rfl

/-- A number with all bits of the mantissa is packed as one that is not zero, or as infinity. -/
theorem isNonzero_ofModel_pack (s : Sign) {m : Nat} {e : Int} (hm : 0 < m) (hlog : m.log2 = 52)
    (he : -1074 ≤ e) : isNonzero (Float.ofModel (pack (.finite s m e hm))) = true := by
  unfold isNonzero
  change (match UnpackedFloat.unpack .binary64
      (UnpackedFloat.pack .binary64 (.finite s m e hm)) with
    | .infinity _ | .finite .. => true
    | .zero _ | .notANumber => false) = true
  have hnormal : m.log2 + 1 = Format.binary64.mantissaBits := by
    rw [hlog]
    rfl
  have hbiased : (e + Format.binary64.exponentBias +
      Format.binary64.mantissaBitsWithoutImplicit).toNat = (e + 1023 + 52).toNat := rfl
  rw [UnpackedFloat.pack, hbiased, if_pos hnormal]
  by_cases hlarge : 2 ^ Format.binary64.exponentBits ≤ (e + 1023 + 52).toNat + 1
  · rw [if_pos hlarge, unpack_packedInfinity]
  · have hlt : (e + 1023 + 52).toNat + 1 < 2048 := Nat.not_le.1 hlarge
    have hzero : BitVec.ofNat 11 (e + 1023 + 52).toNat ≠ 0#11 := by
      intro heq
      have hmod : (e + 1023 + 52).toNat % 2048 = 0 := congrArg BitVec.toNat heq
      omega
    rw [if_neg hlarge, UnpackedFloat.unpack, UnpackedFloat.unpackExponent_packComponents,
      if_neg (ofNat_exponent_ne hlt), if_neg hzero]

/-! ### Rounding -/

theorem isNaN_roundWithAccuracy (s : Sign) (m : Nat) (e : Int) (accuracy : Accuracy) :
    (UnpackedFloat.roundWithAccuracy .binary64 s m e accuracy).isNaN = false := by
  unfold UnpackedFloat.roundWithAccuracy
  dsimp only
  split <;> rfl

theorem mantissa_shiftRight (em : ExtendedMantissa) (n : Nat) :
    (em >>> n).mantissa = em.mantissa / 2 ^ n := by
  show (n.repeat ExtendedMantissa.shiftRightOne em).mantissa = _
  induction n with
  | zero => exact (Nat.div_one _).symm
  | succ n ih =>
    show (n.repeat ExtendedMantissa.shiftRightOne em).mantissa / 2 = _
    rw [ih, Nat.div_div_eq_div_mul, ← Nat.pow_succ]

theorem le_roundedMantissa (em : ExtendedMantissa) : em.mantissa ≤ em.roundedMantissa := by
  rcases em with ⟨m, _ | _, _ | _⟩
  case false.false | false.true => exact Nat.le_refl m
  case true.false | true.true => exact Nat.le_add_right m _

/-- The first bits of a number, as many as a mantissa has. -/
theorem log2_div {m : Nat} (h : 52 ≤ m.log2) : (m / 2 ^ (m.log2 - 52)).log2 = 52 := by
  have hm : m ≠ 0 := by
    rintro rfl
    rw [Nat.log2_zero] at h
    cases h
  have hpos : 0 < 2 ^ (m.log2 - 52) := Nat.pow_pos (by decide)
  have hlow : 2 ^ 52 ≤ m / 2 ^ (m.log2 - 52) := by
    rw [Nat.le_div_iff_mul_le hpos, ← Nat.pow_add, Nat.add_sub_cancel' h]
    exact Nat.log2_self_le hm
  have hhigh : m / 2 ^ (m.log2 - 52) < 2 ^ (52 + 1) := by
    rw [Nat.div_lt_iff_lt_mul hpos, ← Nat.pow_add, Nat.add_right_comm, Nat.add_sub_cancel' h]
    exact Nat.lt_log2_self
  exact (Nat.log2_eq_iff (Nat.ne_of_gt (Nat.lt_of_lt_of_le (by decide) hlow))).2 ⟨hlow, hhigh⟩

theorem log2_shiftToTargetExponent {m : Nat} {e : Int} (hm : 52 ≤ m.log2) (he : -1074 ≤ e)
    (accuracy : Accuracy) :
    (UnpackedFloat.shiftToTargetExponent .binary64 m e accuracy).1.mantissa.log2 = 52 ∧
      -1074 ≤ (UnpackedFloat.shiftToTargetExponent .binary64 m e accuracy).2 := by
  have hamount : (Format.binary64.targetExponent (totalExponent m e) - e).toNat = m.log2 - 52 := by
    show (max ((m.log2 : Int) + 1 + e - 53) (-1074) - e).toNat = _
    omega
  have hmantissa : (ExtendedMantissa.ofMantissaAndAccuracy m accuracy).mantissa = m := by
    rcases accuracy with _ | (_ | _ | _) <;> rfl
  unfold UnpackedFloat.shiftToTargetExponent UnpackedFloat.shiftToExponent
  dsimp only
  rw [hamount, mantissa_shiftRight, hmantissa]
  exact ⟨log2_div hm, by omega⟩

/-- What has as many bits as a mantissa is rounded to a number with all of them. -/
theorem exists_roundWithAccuracy_eq (s : Sign) {m : Nat} {e : Int} (hm : 52 ≤ m.log2)
    (he : -1074 ≤ e) (accuracy : Accuracy) :
    ∃ m' e', ∃ hm' : 0 < m', UnpackedFloat.roundWithAccuracy .binary64 s m e accuracy =
      .finite s m' e' hm' ∧ m'.log2 = 52 ∧ -1074 ≤ e' := by
  unfold UnpackedFloat.roundWithAccuracy
  have hfirst := log2_shiftToTargetExponent hm he accuracy
  generalize UnpackedFloat.shiftToTargetExponent .binary64 m e accuracy = first at hfirst
  obtain ⟨em, e'⟩ := first
  dsimp only at hfirst ⊢
  have hrounded : 52 ≤ em.roundedMantissa.log2 := by
    have hne : em.mantissa ≠ 0 := by
      intro hzero
      rw [hzero, Nat.log2_zero] at hfirst
      cases hfirst.1
    have hle := Nat.le_trans (Nat.log2_self_le hne) (le_roundedMantissa em)
    rw [hfirst.1] at hle
    exact (Nat.le_log2 (Nat.ne_of_gt (Nat.lt_of_lt_of_le (by decide) hle))).2 hle
  have hsecond := log2_shiftToTargetExponent hrounded hfirst.2 .exact
  generalize UnpackedFloat.shiftToTargetExponent .binary64 em.roundedMantissa e' .exact = second
    at hsecond
  have hne : second.1.mantissa ≠ 0 := by
    intro hzero
    rw [hzero, Nat.log2_zero] at hsecond
    cases hsecond.1
  rw [dif_neg hne]
  exact ⟨_, _, _, rfl, hsecond⟩

theorem isNonzero_round (s : Sign) {m : Nat} {e : Int} (hm : 52 ≤ m.log2) (he : -1074 ≤ e) :
    isNonzero (Float.ofModel (pack (UnpackedFloat.roundWithAccuracy .binary64 s m e .exact))) =
      true := by
  obtain ⟨m', e', hm', hround, hlog, he'⟩ := exists_roundWithAccuracy_eq s hm he .exact
  rw [hround]
  exact isNonzero_ofModel_pack s hm' hlog he'

/-! ### Conversions and products -/

/-- A positive integer in scientific notation is a double that is not zero. -/
theorem isNonzero_ofScientific {m : Nat} (hm : 0 < m) (e : Nat) :
    isNonzero (Float.ofModel (ofScientific m e)) = true := by
  unfold ofScientific UnpackedFloat.ofScientific
  rw [dif_neg (Nat.ne_of_gt hm)]
  split
  case isTrue => rfl
  case isFalse =>
    rw [if_neg (by omega), if_pos (Int.natCast_nonneg e)]
    -- The product of the two is rounded with more bits than a mantissa has.
    have hlog : 52 ≤ ((m <<< 53) * 10 ^ e).log2 := by
      have hpow : 0 < 10 ^ e := Nat.pow_pos (by decide)
      have hle : 2 ^ 52 ≤ (m <<< 53) * 10 ^ e := by
        rw [Nat.shiftLeft_eq]
        have hone : 1 ≤ m * 10 ^ e := Nat.mul_pos hm hpow
        calc 2 ^ 52 ≤ (m * 10 ^ e) * 2 ^ 53 := by omega
          _ = m * 2 ^ 53 * 10 ^ e := Nat.mul_right_comm m (10 ^ e) (2 ^ 53)
      exact (Nat.le_log2 (Nat.ne_of_gt (Nat.lt_of_lt_of_le (by decide) hle))).2 hle
    exact isNonzero_round .positive hlog (by decide)

theorem isNaN_neg {x : Float} (h : x.isNaN = false) : (-x).isNaN = false := by
  refine isNaN_ofModel_pack ?_
  change x.toModel.unpack.isNaN = false at h
  cases hx : x.toModel.unpack with
  | notANumber =>
    rw [hx] at h
    cases h
  | infinity _ | zero _ | finite _ _ _ _ => rfl

/-- NaN comes of zero and infinity only. -/
theorem isNaN_mul {x y : Float} (hx : isNonzero x = true) (hy : isNonzero y = true) :
    (x * y).isNaN = false := by
  refine isNaN_ofModel_pack (u := .mul .binary64 x.toModel.unpack y.toModel.unpack) ?_
  unfold isNonzero at hx hy
  cases hx' : x.toModel.unpack with
  | notANumber | zero _ =>
    rw [hx'] at hx
    cases hx
  | infinity _ | finite _ _ _ _ =>
    cases hy' : y.toModel.unpack with
    | notANumber | zero _ =>
      rw [hy'] at hy
      cases hy
    | infinity _ => rfl
    | finite _ _ _ _ => first | rfl | exact isNaN_roundWithAccuracy _ _ _ _

/-- From this integer on, doubles of integers are rounded once. -/
theorem isNonzero_ofNat {n : Nat} (hn : 2 ^ 53 ≤ n) : isNonzero (Float.ofNat n) = true := by
  show isNonzero (Float.ofScientific n false 0) = true
  unfold Float.ofScientific
  rw [dif_neg fun h => absurd h.1 (Nat.not_lt.2 hn)]
  exact isNonzero_ofScientific (Nat.lt_of_lt_of_le (by decide) hn) 0

end Float64

namespace Json

open Float64

theorem isNonzero_powerOfTen (n : Nat) : isNonzero (powerOfTen n) = true := by
  by_cases hn : n ≤ 22
  · have htable : ∀ n ≤ 22, isNonzero (powerOfTen n) = true := by decide +kernel
    exact htable n hn
  · unfold powerOfTen Float.ofScientific
    rw [dif_neg fun h => hn h.2]
    exact isNonzero_ofScientific Nat.one_pos n

/-- Integers beyond 64 bits are not read as NaN. -/
theorem isNaN_of_scaled? {significand dropped : Nat} (hsignificand : 2 ^ 53 ≤ significand)
    {x : Float} (h : scaled? significand dropped = some x) : x.isNaN = false := by
  unfold scaled? at h
  dsimp only at h
  rw [if_neg (Int.not_lt.2 (Int.natCast_nonneg dropped)), Int.toNat_natCast] at h
  split at h
  case isTrue =>
    split at h
    · exact Option.some.inj h ▸ isNaN_of_isNonzero (isNonzero_ofNat hsignificand)
    · cases h
  case isFalse =>
    split at h
    · cases h
    · exact Option.some.inj h ▸
        isNaN_mul (isNonzero_ofNat hsignificand) (isNonzero_powerOfTen dropped)

end Json

end CallPolicy
