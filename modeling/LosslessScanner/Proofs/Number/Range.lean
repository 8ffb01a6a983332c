import Mathlib.Algebra.Order.Field.Basic
import Mathlib.Algebra.Order.Ring.Rat
import Mathlib.Tactic.Ring
import Mathlib.Tactic.Positivity
import LosslessScanner.Proofs.Number.Rounding

/-!
# How large a decimal is

The number of its digits and its exponent bound a decimal between two powers of
ten. Reading makes use of this: if the powers are far off the range of doubles,
the answer is known without any power being formed.

The range ends at `2 ^ 1024 - 2 ^ 970`, the middle between the largest double and
the number that would follow it, and a decimal that lies exactly there is out of
it. As a fraction of whole numbers the decimal is then one that overflows, and
`10 ^ 310` is beyond.
-/

namespace LosslessScanner

/-- The number that a decimal denotes, without its sign. -/
def Decimal.magnitude (d : Decimal) : ℚ := d.significand * 10 ^ d.exponent

namespace Binary64

/-! ## Counting digits -/

theorem lt_ten_pow_digitCount (n : Nat) : n < 10 ^ digitCount n := by
  rw [digitCount, ← Nat.length_toDigits_le_iff (by decide) Nat.length_toDigits_pos]

theorem ten_pow_pred_digitCount_le {n : Nat} (hn : n ≠ 0) : 10 ^ (digitCount n - 1) ≤ n := by
  by_cases h : digitCount n - 1 = 0
  · rw [h]
    omega
  · refine Nat.le_of_not_lt fun hlt => ?_
    rw [← Nat.length_toDigits_le_iff (by decide) (Nat.pos_of_ne_zero h)] at hlt
    have : (Nat.toDigits 10 n).length = digitCount n := rfl
    omega

theorem digitCount_pos (n : Nat) : 0 < digitCount n := Nat.length_toDigits_pos

section Bounds

variable (d : Decimal)

theorem magnitude_lt_ten_zpow :
    d.magnitude < 10 ^ (d.exponent + digitCount d.significand) := by
  have hlt : (d.significand : ℚ) < 10 ^ digitCount d.significand := by
    exact_mod_cast lt_ten_pow_digitCount d.significand
  rw [add_comm, zpow_add₀ (by norm_num), zpow_natCast, Decimal.magnitude]
  exact mul_lt_mul_of_pos_right hlt (zpow_pos (by norm_num) _)

theorem ten_zpow_le_magnitude (h : d.significand ≠ 0) :
    10 ^ (d.exponent + digitCount d.significand - 1) ≤ d.magnitude := by
  have hle : (10 : ℚ) ^ (digitCount d.significand - 1) ≤ d.significand := by
    exact_mod_cast ten_pow_pred_digitCount_le h
  have hpos := digitCount_pos d.significand
  have hexponent : d.exponent + digitCount d.significand - 1 =
      (digitCount d.significand - 1 : ℕ) + d.exponent := by omega
  rw [hexponent, zpow_add₀ (by norm_num), zpow_natCast, Decimal.magnitude]
  exact mul_le_mul_of_nonneg_right hle (zpow_nonneg (by norm_num) _)

/-- A decimal as a fraction of natural numbers. -/
theorem magnitude_mul_ten_pow :
    d.magnitude * (10 ^ (-d.exponent).toNat : ℕ) = (d.significand * 10 ^ d.exponent.toNat : ℕ) := by
  rw [Decimal.magnitude, mul_assoc]
  push_cast
  congr 1
  obtain ⟨n, hn | hn⟩ := Int.eq_nat_or_neg d.exponent
  · rw [hn]
    simp
  · rw [hn, zpow_neg, zpow_natCast]
    simp

end Bounds

/-! ## The bound -/

theorem two_pow_le_ten_pow : 2 ^ 1024 ≤ 10 ^ 310 := by decide +kernel

/-- The bound in units of the least double. -/
theorem overflow_eq : (overflow : ℚ) = (2 ^ 1024 - 2 ^ 970) * 2 ^ leastPlace := by
  have hpowers (a b : ℕ) :
      ((2 : ℚ) ^ (a + 54) - 2 ^ a) * 2 ^ b = (2 ^ 54 - 1) * 2 ^ (a + b) := by ring
  have hcast : (overflow : ℚ) = (2 ^ 54 - 1) * 2 ^ lastButOne := by
    rw [overflow]
    push_cast
    ring
  rw [hcast, hpowers 970 leastPlace, lastButOne_eq_add]

theorem bound_le_ten_pow : (2 : ℚ) ^ 1024 - 2 ^ 970 ≤ 10 ^ (310 : ℤ) := by
  have hpow : (2 : ℚ) ^ 1024 ≤ 10 ^ 310 := by exact_mod_cast two_pow_le_ten_pow
  have hpos : (0 : ℚ) ≤ 2 ^ 970 := pow_nonneg (by norm_num) 970
  calc (2 : ℚ) ^ 1024 - 2 ^ 970 ≤ 2 ^ 1024 := sub_le_self _ hpos
    _ ≤ 10 ^ 310 := hpow
    _ = 10 ^ (310 : ℤ) := (zpow_natCast 10 310).symm

/-- Fractions that reach the bound are those that overflow. -/
theorem overflow_mul_le_iff (d : Decimal) :
    overflow * 10 ^ (-d.exponent).toNat ≤
        d.significand * 10 ^ d.exponent.toNat * 2 ^ leastPlace ↔
      (2 : ℚ) ^ 1024 - 2 ^ 970 ≤ d.magnitude := by
  have hten : (0 : ℚ) < (10 ^ (-d.exponent).toNat : ℕ) := by
    exact_mod_cast Nat.pow_pos (by decide)
  have hunits : (0 : ℚ) < 2 ^ leastPlace := pow_pos (by norm_num) leastPlace
  have hcast : ((2 ^ leastPlace : ℕ) : ℚ) = 2 ^ leastPlace := Nat.cast_pow 2 leastPlace
  rw [← @Nat.cast_le ℚ, Nat.cast_mul, Nat.cast_mul, ← magnitude_mul_ten_pow, hcast,
    overflow_eq, mul_right_comm d.magnitude, mul_le_mul_iff_left₀ hten,
    mul_le_mul_iff_left₀ hunits]

theorem ofMagnitude?_eq_none_iff {negative : Bool} {m : Nat} :
    ofMagnitude? negative m = none ↔ infinite ≤ m := by
  rw [ofMagnitude?]
  split
  · next h => simp [h]
  · next h => simpa using h

end Binary64

end LosslessScanner
