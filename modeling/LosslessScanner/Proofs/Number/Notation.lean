import LosslessScanner.Literal
import LosslessScanner.Proofs.Number.Shortest

/-!
# Where the notation changes

A style looks at the exponent of the digits that it is about to write. A reader
would rather look at the number. The two need not agree, since the digits denote
a number that is only close to the double; but they do agree where the notation
changes, and the reason is that it changes at powers of ten.

From a power of ten on, the search for digits never leaves it, because the power is
on every grid. Below the power it cannot get there, as long as the power itself
is rounded to a double that is not below it: what is rounded to a smaller double is
a smaller number.
-/

namespace LosslessScanner

/-- The exponent of ten of the first digit. -/
def Digits.leading (d : Digits) : ℤ := d.exponent + (Text.ofNat d.significand).length - 1

/-- The exponent of the first digit counts the powers of ten that the number reaches. -/
theorem Digits.ten_zpow_le_value_iff {d : Digits} (h : 0 < d.significand) (j : ℤ) :
    10 ^ j ≤ d.value ↔ j ≤ d.leading := by
  have hlower : (10 : ℚ) ^ d.leading ≤ d.value :=
    Binary64.ten_zpow_le_magnitude ⟨false, d.significand, d.exponent⟩ (Nat.ne_of_gt h)
  have hupper : d.value < 10 ^ (d.leading + 1) := by
    rw [leading, sub_add_cancel]
    exact Binary64.magnitude_lt_ten_zpow ⟨false, d.significand, d.exponent⟩
  constructor
  · intro hle
    have hlt := lt_of_le_of_lt hle hupper
    rw [zpow_lt_zpow_iff_right₀ (by norm_num)] at hlt
    omega
  · intro hle
    exact (zpow_le_zpow_right₀ (by norm_num) hle).trans hlower

namespace Binary64

theorem ten_pow_le_size_iff {k m : ℕ} :
    (10 : ℚ) ^ (k - decimalPlaces : ℤ) ≤ size m ↔
      10 ^ k * 2 ^ (leastPlace + 1) ≤ scaled m := by
  have hten : (0 : ℚ) < 10 ^ decimalPlaces := pow_pos (by norm_num) _
  have hcast : (10 ^ k * 2 ^ leastPlace : ℚ) ≤ units m * 10 ^ decimalPlaces ↔
      10 ^ k * 2 ^ leastPlace ≤ units m * 10 ^ decimalPlaces := by
    exact_mod_cast Iff.rfl
  have hdouble : 10 ^ k * 2 ^ (leastPlace + 1) = 2 * (10 ^ k * 2 ^ leastPlace) := by
    rw [Nat.pow_succ]
    ring
  rw [zpow_sub₀ (by norm_num), zpow_natCast, zpow_natCast, size,
    div_le_div_iff₀ hten two_pow_leastPlace_pos, hcast, hdouble, scaled, Nat.mul_assoc]
  omega

/-- The digits of a double and the double itself are on the same side of a power of ten that is
rounded up or exact. -/
theorem ten_zpow_le_shortest_iff {j : ℤ} {m n : ℕ} (hm : 0 < m) (tie : Tie)
    (hj : -decimalPlaces ≤ j) (hn : RoundsTo (10 ^ j) n) (hup : (10 : ℚ) ^ j ≤ size n) :
    (10 : ℚ) ^ j ≤ (shortest tie m).value ↔ (10 : ℚ) ^ j ≤ size m := by
  obtain ⟨k, rfl⟩ : ∃ k : ℕ, j = k - decimalPlaces := ⟨(j + decimalPlaces).toNat, by omega⟩
  constructor
  · intro hle
    have hnm : n ≤ m := hn.mono (roundsTo_shortest hm tie) hle
    exact hup.trans (size_strictMono.monotone hnm)
  · intro hle
    exact ten_pow_le_shortest hm tie (ten_pow_le_size_iff.1 hle)

/-! ## The two powers -/

theorem le_size_of_le_units {q : ℚ} {a b n : ℕ} (hb : 0 < b) (h : q * 2 ^ leastPlace * b = a)
    (hle : a ≤ units n * b) : q ≤ size n := by
  have hcast : q * 2 ^ leastPlace * b ≤ units n * b := by
    rw [h]
    exact_mod_cast hle
  rw [size, le_div_iff₀ two_pow_leastPlace_pos]
  exact le_of_mul_le_mul_right hcast (by exact_mod_cast hb)

/-- The magnitude of `0.0001`, which is a little more than that. -/
def tenThousandth : ℕ := 0x3f1a36e2eb1c432d

/-- The magnitude of `1e16`, which is just that. -/
def tenQuadrillion : ℕ := 0x4341c37937e08000

theorem roundsTo_tenThousandth :
    RoundsTo (10 ^ (-4 : ℤ)) tenThousandth ∧ (10 : ℚ) ^ (-4 : ℤ) ≤ size tenThousandth := by
  have hvalue : (10 : ℚ) ^ (-4 : ℤ) * 2 ^ leastPlace * (10 ^ 4 : ℕ) = (2 ^ leastPlace : ℕ) := by
    rw [Nat.cast_pow 2 leastPlace, mul_right_comm, Nat.cast_ofNat]
    norm_num
  have hle : 2 ^ leastPlace ≤ units tenThousandth * 10 ^ 4 := by decide +kernel
  exact ⟨(roundsTo_iff (by decide) hvalue _).2 (by decide +kernel),
    le_size_of_le_units (by decide) hvalue hle⟩

theorem roundsTo_tenQuadrillion :
    RoundsTo (10 ^ (16 : ℤ)) tenQuadrillion ∧ (10 : ℚ) ^ (16 : ℤ) ≤ size tenQuadrillion := by
  have hvalue : (10 : ℚ) ^ (16 : ℤ) * 2 ^ leastPlace * (1 : ℕ) = (10 ^ 16 * 2 ^ leastPlace : ℕ) := by
    rw [Nat.cast_one, mul_one, Nat.cast_mul _ (2 ^ leastPlace), Nat.cast_pow 2 leastPlace,
      Nat.cast_ofNat]
    norm_num
  have hle : 10 ^ 16 * 2 ^ leastPlace ≤ units tenQuadrillion * 1 := by decide +kernel
  exact ⟨(roundsTo_iff (by decide) hvalue _).2 (by decide +kernel),
    le_size_of_le_units (by decide) hvalue hle⟩

/-- Doubles are shown in place from `0.0001` on and below `1e16`. -/
theorem display_inPlace_iff {m : ℕ} (hm : 0 < m) :
    (-4 ≤ (shortest .up m).leading ∧ (shortest .up m).leading ≤ 15) ↔
      1 / 10 ^ 4 ≤ size m ∧ size m < 10 ^ 16 := by
  obtain ⟨hlow, hlowUp⟩ := roundsTo_tenThousandth
  obtain ⟨hhigh, hhighUp⟩ := roundsTo_tenQuadrillion
  have hleast := ten_zpow_le_shortest_iff hm .up (by decide) hlow hlowUp
  have hgreatest := ten_zpow_le_shortest_iff hm .up (by decide) hhigh hhighUp
  rw [Digits.ten_zpow_le_value_iff (shortest_pos hm .up)] at hleast hgreatest
  have hfourth : (10 : ℚ) ^ (-4 : ℤ) = 1 / 10 ^ 4 := by norm_num
  have hsixteenth : (10 : ℚ) ^ (16 : ℤ) = 10 ^ 16 := by norm_num
  rw [hfourth] at hleast
  rw [hsixteenth] at hgreatest
  rw [hleast, ← not_le, ← hgreatest]
  exact and_congr_right fun _ => by omega

end Binary64

end LosslessScanner
