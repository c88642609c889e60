import CallPolicy.Argument.Value

namespace CallPolicy

/-!
# Literals that agree

Agreement is equality of literals in which both zeros are one number and NaN is none, so it is an
equality but for NaN.

* `number?`, `float_beq_iff` — the number of a double; doubles are equal if they are one number.
* `Argument.agrees_self` — every literal that is not NaN agrees with itself.
* `Argument.agrees_symm`, `Argument.agrees_trans` — agreement is symmetric and transitive.
* `Argument.otherThan` — a literal that does not agree with the given one.
-/

/-! ### Doubles -/

section

open Float.Model

/-- The number that a double is, where it is one. The sign of zero does not count. -/
def number? : UnpackedFloat → Option UnpackedFloat
  | .notANumber => none
  | .zero _ => some (.zero .positive)
  | number => some number

theorem exists_eq_some_iff {α : Type} (a b : α) :
    (∃ n, some a = some n ∧ some b = some n) ↔ a = b := by
  constructor
  · rintro ⟨n, ha, hb⟩
    exact Option.some.inj (ha.trans hb.symm)
  · rintro rfl
    exact ⟨a, rfl, rfl⟩

theorem compare_then_eq_iff (e e' : Int) (m m' : Nat) :
    (compare e e').then (compare m m') = .eq ↔ m = m' ∧ e = e' := by
  rw [Ordering.then_eq_eq, Int.compare_eq_eq, Nat.compare_eq_eq, and_comm]

/-- Finite doubles of one sign are compared by exponent and then by mantissa. -/
theorem compare_finite_eq_iff (s s' : UnpackedFloat.Sign) {m m' : Nat} (e e' : Int) (h : 0 < m)
    (h' : 0 < m') :
    UnpackedFloat.compare (.finite s m e h) (.finite s' m' e' h') = some .eq ↔
      UnpackedFloat.finite s m e h = .finite s' m' e' h' := by
  rw [UnpackedFloat.finite.injEq]
  cases s with
  | positive =>
    cases s' with
    | positive =>
      show some ((compare e e').then (compare m m')) = some .eq ↔ _
      rw [Option.some.injEq, compare_then_eq_iff, and_iff_right rfl]
    | negative => exact iff_of_false nofun nofun
  | negative =>
    cases s' with
    | positive => exact iff_of_false nofun nofun
    | negative =>
      show some ((compare e e').then (compare m m')).swap = some .eq ↔ _
      rw [Option.some.injEq, Ordering.swap_eq_eq, compare_then_eq_iff, and_iff_right rfl]

/-- Doubles that compare as equal are one number. -/
theorem compare_eq_iff (a b : UnpackedFloat) :
    a.compare b = some .eq ↔ ∃ n, number? a = some n ∧ number? b = some n := by
  cases a with
  | notANumber => exact iff_of_false nofun nofun
  | zero _ =>
    cases b with
    | notANumber => exact iff_of_false nofun nofun
    | zero _ => exact iff_of_true rfl ⟨_, rfl, rfl⟩
    | infinity t | finite t _ _ _ => cases t <;> exact iff_of_false nofun nofun
  | infinity s =>
    cases b with
    | notANumber => exact iff_of_false nofun nofun
    | zero _ | finite _ _ _ _ => cases s <;> exact iff_of_false nofun nofun
    | infinity t =>
      cases s <;> cases t
      case positive.positive | negative.negative => exact iff_of_true rfl ⟨_, rfl, rfl⟩
      case positive.negative | negative.positive => exact iff_of_false nofun nofun
  | finite s _ _ _ =>
    cases b with
    | notANumber => exact iff_of_false nofun nofun
    | zero _ => cases s <;> exact iff_of_false nofun nofun
    | infinity t => cases t <;> exact iff_of_false nofun nofun
    | finite _ _ _ _ => exact (compare_finite_eq_iff ..).trans (exists_eq_some_iff _ _).symm

end

/-- Doubles are equal if they are one number. -/
theorem float_beq_iff (x y : Float) :
    (x == y) = true ↔
      ∃ n, number? x.toModel.unpack = some n ∧ number? y.toModel.unpack = some n := by
  rw [← compare_eq_iff]
  show (x.toModel.unpack.compare y.toModel.unpack == some .eq) = true ↔ _
  rw [beq_iff_eq]

/-- A double is equal to itself unless it is no number. -/
theorem float_beq_self {x : Float} (h : x.isNaN = false) : (x == x) = true := by
  rw [float_beq_iff]
  -- All but NaN are some number.
  change x.toModel.unpack.isNaN = false at h
  cases hx : x.toModel.unpack with
  | notANumber =>
    rw [hx] at h
    cases h
  | infinity _ | zero _ | finite _ _ _ _ => exact ⟨_, rfl, rfl⟩

namespace Argument

/-! ### Agreement as an equality -/

/-- The literal is no number. -/
def IsNaN : Argument → Prop
  | float x => x.isNaN = true
  | _ => False

theorem agrees_self {a : Argument} (hknown : a.isKnown = true) (hnan : ¬ a.IsNaN) :
    a.agrees a = true := by
  cases a with
  | unknown => cases hknown
  | float x => exact float_beq_self (by simpa [IsNaN] using hnan)
  | null => rfl
  | bool b => simp [agrees]
  | int n => simp [agrees]
  | text s => simp [agrees]

/-- Literals agree if they are one number, or the same and no doubles. -/
theorem agrees_iff (a b : Argument) :
    a.agrees b = true ↔
      (∃ x y n, a = float x ∧ b = float y ∧ number? x.toModel.unpack = some n ∧
        number? y.toModel.unpack = some n) ∨
      a = b ∧ a.isKnown = true ∧ ∀ x, a ≠ float x := by
  cases a <;> cases b <;> simp [agrees, isKnown, float_beq_iff]

theorem agrees_symm {a b : Argument} (h : a.agrees b = true) : b.agrees a = true := by
  rw [agrees_iff] at h ⊢
  rcases h with ⟨x, y, n, ha, hb, hx, hy⟩ | ⟨rfl, h⟩
  · exact Or.inl ⟨y, x, n, hb, ha, hy, hx⟩
  · exact Or.inr ⟨rfl, h⟩

theorem agrees_trans {a b c : Argument} (hab : a.agrees b = true) (hbc : b.agrees c = true) :
    a.agrees c = true := by
  rcases (agrees_iff a b).1 hab with ⟨x, y, n, rfl, rfl, hx, hy⟩ | ⟨rfl, -⟩
  · rcases (agrees_iff _ c).1 hbc with ⟨y', z, m, hy', rfl, hym, hz⟩ | ⟨-, -, hno⟩
    · obtain rfl := float.inj hy'
      have hnm : m = n := Option.some.inj (hym.symm.trans hy)
      exact (agrees_iff _ _).2 (Or.inl ⟨x, z, n, rfl, rfl, hx, hnm ▸ hz⟩)
    · exact absurd rfl (hno y)
  · exact hbc

/-! ### Other literals -/

/-- A literal that does not agree with the given one. -/
def otherThan : Argument → Argument
  | null => bool false
  | _ => null

theorem isKnown_otherThan (a : Argument) : (otherThan a).isKnown = true := by
  cases a <;> rfl

theorem agrees_otherThan (a : Argument) : (otherThan a).agrees a = false := by
  cases a <;> rfl

end Argument

end CallPolicy
