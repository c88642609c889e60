import CallPolicy.Proofs.Json.TokenTexts
import Mathlib.Data.List.Induction

namespace CallPolicy.Json

/-!
# Digits of integers

* `toDigits_natOfDigits` — digits are those of their value, if no zero stands in front of others.
* `appendDigits_snd_ne_zero`, `lt_of_appendDigits` — digits are left over where 64 bits do not hold
  the value, and then the others make up almost as much as 64 bits hold.
-/

theorem natOfDigits_eq (ds : List Char) : natOfDigits ds = Nat.ofDigitChars 10 ds 0 := by
  unfold natOfDigits
  rw [Nat.ofDigitChars_eq_foldl]
  congr 1
  funext n c
  rw [Nat.mul_comm]
  rfl

theorem digitValue_lt {c : Char} (h : c.isDigit = true) : digitValue c < 10 := by
  have hrange := Char.isDigit_iff_toNat.1 h
  have hnine : '9'.toNat = '0'.toNat + 9 := rfl
  unfold digitValue
  omega

theorem digitChar_digitValue {c : Char} (h : c.isDigit = true) :
    Nat.digitChar (digitValue c) = c := by
  have hrange := Char.isDigit_iff_toNat.1 h
  have hzero : '0'.toNat = 48 := rfl
  rw [← Char.toNat_inj, Nat.toNat_digitChar_of_lt_ten (digitValue_lt h)]
  unfold digitValue
  omega

/-- A number that does not start with zero is not zero. -/
theorem natOfDigits_pos {c : Char} (h : c.isDigit = true) (hzero : c ≠ '0') (rest : List Char) :
    0 < natOfDigits (c :: rest) := by
  have hrange := Char.isDigit_iff_toNat.1 h
  have hne : c.toNat ≠ '0'.toNat := fun heq => hzero (Char.toNat_inj.1 heq)
  rw [natOfDigits_eq, Nat.ofDigitChars_cons]
  exact Nat.lt_of_lt_of_le (by omega) (le_ofDigitChars rest _)

/-- Digits are those of their value, if no zero stands in front of others. -/
theorem toDigits_natOfDigits {ds : List Char} (hdigit : ∀ c ∈ ds, c.isDigit = true)
    (hwhole : isWhole ds = true) : Nat.toDigits 10 (natOfDigits ds) = ds := by
  induction ds using List.reverseRecOn with
  | nil => cases hwhole
  | append_singleton front c ih =>
    rw [List.forall_mem_append, List.forall_mem_singleton] at hdigit
    have hvalue : natOfDigits (front ++ [c]) = 10 * natOfDigits front + digitValue c := by
      unfold natOfDigits
      rw [List.foldl_concat, Nat.mul_comm]
    have hlast : Nat.toDigits 10 (digitValue c) = [c] := by
      rw [Nat.toDigits_of_lt_base (digitValue_lt hdigit.2), digitChar_digitValue hdigit.2]
    cases front with
    | nil =>
      rw [hvalue]
      show Nat.toDigits 10 (10 * 0 + digitValue c) = [c]
      rw [Nat.mul_zero, Nat.zero_add, hlast]
    | cons d front =>
      -- The front starts with the same digit, which is not zero.
      have hd : d ≠ '0' := by
        cases front with
        | nil => exact bne_iff_ne.1 hwhole
        | cons _ _ => exact bne_iff_ne.1 hwhole
      have hfront : isWhole (d :: front) = true := by
        cases front with
        | nil => rfl
        | cons _ _ => exact bne_iff_ne.2 hd
      have hpos := natOfDigits_pos (hdigit.1 d List.mem_cons_self) hd front
      rw [hvalue, ← Nat.toDigits_append_toDigits (by decide) hpos (digitValue_lt hdigit.2), hlast,
        ih hdigit.1 hfront]

/-- Digits are left over only where 64 bits hold no more. -/
theorem lt_of_appendDigits {ds : List Char} (hdigit : ∀ c ∈ ds, c.isDigit = true) (n : Nat)
    (h : (appendDigits n ds).2 ≠ 0) : maxWord < (appendDigits n ds).1 * 10 + 10 := by
  induction ds generalizing n with
  | nil => exact absurd rfl h
  | cons c rest ih =>
    rw [List.forall_mem_cons] at hdigit
    unfold appendDigits at h ⊢
    dsimp only at h ⊢
    split at h
    case isTrue hfits =>
      rw [if_pos hfits]
      exact ih hdigit.2 _ h
    case isFalse hfull =>
      have hc := digitValue_lt hdigit.1
      rw [if_neg hfull]
      dsimp only
      omega

/-- Digits are left over if 64 bits do not hold the value. -/
theorem appendDigits_snd_ne_zero {ds : List Char} {n : Nat} (hn : n ≤ maxWord)
    (h : maxWord < Nat.ofDigitChars 10 ds n) : (appendDigits n ds).2 ≠ 0 := by
  induction ds generalizing n with
  | nil => exact absurd h (Nat.not_lt.2 hn)
  | cons c rest ih =>
    have hnext : n * 10 + digitValue c = 10 * n + (c.toNat - '0'.toNat) := by
      rw [Nat.mul_comm]
      rfl
    rw [Nat.ofDigitChars_cons, ← hnext] at h
    unfold appendDigits
    dsimp only
    split
    case isTrue hfits => exact ih hfits h
    case isFalse => exact Nat.succ_ne_zero _

end CallPolicy.Json
