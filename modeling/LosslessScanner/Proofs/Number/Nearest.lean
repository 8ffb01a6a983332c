import LosslessScanner.Proofs.Number.Interval
import LosslessScanner.Proofs.Number.Range

/-!
# The double nearest to a decimal

A decimal is read to the double nearest to it, and if two are equally near, to
the one whose significand is even. The sign is taken over, so that what is too
small for any double becomes a zero that still has one.

`IsNearest` compares a double with every other double. `RoundsTo` compares a
magnitude with two neighbours, and is what the reader obeys. Of the two, the
first is what one wants and the second is what one can compute with, so this
file goes from the second to the first. For the way back it is enough that no two
doubles of one sign are nearest: both would be even, and between two even ones
there is an odd one.
-/

namespace LosslessScanner

namespace Binary64

/-! ## Values -/

/-- The number that a double stands for. -/
def value (x : Binary64) : ℚ := if x.negative then -size x.magnitude else size x.magnitude

/-- No double is nearer to a number, and if another is as near then the significand is even. The
last bit of the significand is the last bit of the magnitude. -/
def IsNearest (x : Binary64) (q : ℚ) : Prop :=
  ∀ y : Binary64, |x.value - q| ≤ |y.value - q| ∧
    (|x.value - q| = |y.value - q| → y.value = x.value ∨ x.magnitude % 2 = 0)

theorem value_eq_zero_iff {x : Binary64} : x.value = 0 ↔ x.magnitude = 0 := by
  have hsize : size x.magnitude = 0 ↔ x.magnitude = 0 :=
    ⟨fun h => size_strictMono.injective (h.trans size_zero.symm), fun h => h ▸ size_zero⟩
  rw [value, ← hsize]
  split
  · exact neg_eq_zero
  · exact Iff.rfl

theorem abs_sub_of_negative (b : Bool) (u v : ℚ) :
    |(if b then -u else u) - (if b then -v else v)| = |u - v| := by
  cases b with
  | false => rfl
  | true =>
      have hneg : -u - -v = v - u := by ring
      simpa [hneg] using abs_sub_comm v u

/-- Being in the interval is being nearest. A double of the other sign is no better than zero. -/
theorem RoundsTo.isNearest {x : Binary64} {q : ℚ} (h : RoundsTo q x.magnitude) :
    x.IsNearest (if x.negative then -q else q) := by
  intro y
  have hx : |x.value - (if x.negative then -q else q)| = |size x.magnitude - q| :=
    abs_sub_of_negative x.negative _ _
  rw [hx]
  by_cases hsign : y.negative = x.negative
  · have hy : |y.value - (if x.negative then -q else q)| = |size y.magnitude - q| := by
      rw [← hsign]
      exact abs_sub_of_negative y.negative _ _
    obtain ⟨hle, htie⟩ := h.nearest y.magnitude
    rw [hy]
    refine ⟨hle, fun heq => (htie heq).imp_left fun hmagnitude => ?_⟩
    rw [value, value, hsign, hmagnitude]
  · have hy : |y.value - (if x.negative then -q else q)| = size y.magnitude + q := by
      have hopposite : y.value = if x.negative then -(-size y.magnitude) else -size y.magnitude := by
        rw [value]
        cases hyn : y.negative <;> cases hxn : x.negative <;> simp_all
      have habs : |-size y.magnitude - q| = size y.magnitude + q := by
        rw [← neg_add', abs_neg, abs_of_nonneg (add_nonneg (size_nonneg _) h.nonneg)]
      rw [hopposite, abs_sub_of_negative, habs]
    have hzero : |size 0 - q| = q := by rw [size_zero, zero_sub, abs_neg, abs_of_nonneg h.nonneg]
    obtain ⟨hle, htie⟩ := h.nearest 0
    have hsize := size_nonneg y.magnitude
    rw [hzero] at hle htie
    rw [hy]
    refine ⟨by linarith, fun heq => Or.inr ?_⟩
    rcases htie (by linarith) with hmagnitude | heven
    · omega
    · exact heven

/-- Of three numbers in their order the middle one is nearer to what the outer ones are equally
near to. -/
theorem abs_sub_lt_of_between {a b c q : ℚ} (hab : a < b) (hbc : b < c)
    (h : |a - q| = |c - q|) : |b - q| < |a - q| := by
  have hq : 2 * q = a + c := by
    rcases abs_eq_abs.1 h with heq | heq
    · exact absurd (hab.trans hbc) (by linarith)
    · linarith
  have ha : |a - q| = q - a := by rw [abs_sub_comm, abs_of_nonneg (by linarith)]
  rw [ha, abs_lt]
  exact ⟨by linarith, by linarith⟩

theorem IsNearest.not_lt {x y : Binary64} {q : ℚ} (hx : x.IsNearest q) (hy : y.IsNearest q)
    (hsign : x.negative = y.negative) : ¬ x.magnitude < y.magnitude := by
  intro hlt
  have heq : |x.value - q| = |y.value - q| := le_antisymm (hx y).1 (hy x).1
  have hsize : size x.magnitude < size y.magnitude := size_strictMono hlt
  have hvalue : x.value ≠ y.value := by
    intro hvalue
    rw [value, value, hsign] at hvalue
    split at hvalue
    · linarith
    · linarith
  have hxeven : x.magnitude % 2 = 0 := ((hx y).2 heq).resolve_left hvalue.symm
  have hyeven : y.magnitude % 2 = 0 := ((hy x).2 heq.symm).resolve_left hvalue
  -- Between two even magnitudes there is an odd one.
  let z : Binary64 := ⟨x.negative, x.magnitude + 1, Nat.lt_of_le_of_lt hlt y.finite⟩
  have hxz : size x.magnitude < size z.magnitude := size_strictMono (Nat.lt_succ_self _)
  have hzy : size z.magnitude < size y.magnitude :=
    size_strictMono (show x.magnitude + 1 < y.magnitude by omega)
  have hnearer : |z.value - q| < |x.value - q| := by
    rw [value, value, ← hsign] at heq
    rw [value, value, show z.negative = x.negative from rfl]
    split
    · next hneg =>
        rw [if_pos hneg, if_pos hneg] at heq
        rw [heq]
        exact abs_sub_lt_of_between (neg_lt_neg hzy) (neg_lt_neg hxz) heq.symm
    · next hpos =>
        rw [if_neg hpos, if_neg hpos] at heq
        exact abs_sub_lt_of_between hxz hzy heq
  exact absurd hnearer (not_lt_of_ge (hx z).1)

theorem IsNearest.unique {x y : Binary64} {q : ℚ} (hx : x.IsNearest q) (hy : y.IsNearest q)
    (hsign : x.negative = y.negative) : x = y := by
  have hmagnitude : x.magnitude = y.magnitude :=
    Nat.le_antisymm (Nat.le_of_not_lt (hy.not_lt hx hsign.symm))
      (Nat.le_of_not_lt (hx.not_lt hy hsign))
  cases x
  cases y
  simp_all

end Binary64

/-! ## Reading decimals -/

namespace Decimal

variable (d : Decimal)

/-- The magnitude that a decimal is rounded to. -/
def rounded : ℕ :=
  Binary64.nearest (d.significand * 10 ^ d.exponent.toNat * 2 ^ Binary64.leastPlace)
    (10 ^ (-d.exponent).toNat)

theorem roundsTo_rounded : Binary64.RoundsTo d.magnitude d.rounded := by
  refine Binary64.roundsTo_nearest (Nat.pow_pos (by decide)) ?_
  rw [mul_right_comm, Binary64.magnitude_mul_ten_pow, Nat.cast_mul _ (2 ^ Binary64.leastPlace),
    Nat.cast_pow 2 Binary64.leastPlace, Nat.cast_ofNat]

theorem infinite_le_rounded_iff :
    Binary64.infinite ≤ d.rounded ↔ (2 : ℚ) ^ 1024 - 2 ^ 970 ≤ d.magnitude := by
  rw [← Binary64.overflow_mul_le_iff]
  exact Binary64.infinite_le_nearest_iff (Nat.pow_pos (by decide))

end Decimal

namespace Binary64

theorem two_pow_leastPlace_le_ten_pow : 2 ^ (leastPlace + 1) ≤ 10 ^ 331 := by decide +kernel

/-- What is less than half of the least double is rounded to zero. -/
theorem roundsTo_zero {q : ℚ} (hq : 0 ≤ q) (h : q < 10 ^ (-331 : ℤ)) : RoundsTo q 0 := by
  have hone : size (0 + 1) = 1 / 2 ^ leastPlace := by
    rw [size, show units (0 + 1) = 1 from rfl, Nat.cast_one]
  have hpow : (2 : ℚ) ^ (leastPlace + 1) ≤ 10 ^ 331 := by
    have hcast := @Nat.cast_le ℚ _ _ _ _ _ |>.2 two_pow_leastPlace_le_ten_pow
    rwa [Nat.cast_pow, Nat.cast_pow, Nat.cast_ofNat, Nat.cast_ofNat] at hcast
  have hten : (10 : ℚ) ^ (-331 : ℤ) * 2 ≤ 1 / 2 ^ leastPlace := by
    rw [zpow_neg, le_div_iff₀ two_pow_leastPlace_pos, mul_assoc, ← pow_succ',
      inv_mul_le_iff₀ (zpow_pos (by norm_num) _), mul_one]
    exact hpow
  refine ⟨?_, ?_, fun _ => rfl⟩
  · rw [size_zero]
    linarith
  · rw [size_zero, hone]
    linarith

/-- Reading a decimal is rounding it. The shortcuts for what is far too small or too large
change nothing. -/
theorem ofDecimal?_eq (d : Decimal) : ofDecimal? d = ofMagnitude? d.negative d.rounded := by
  rw [ofDecimal?]
  split
  · next hsmall =>
      have hzero : d.rounded = 0 := by
        refine d.roundsTo_rounded.unique (roundsTo_zero d.roundsTo_rounded.nonneg ?_)
        rcases hsmall with hsignificand | hexponent
        · rw [Decimal.magnitude, hsignificand, Nat.cast_zero, zero_mul]
          exact zpow_pos (by norm_num) _
        · exact lt_of_lt_of_le (magnitude_lt_ten_zpow d)
            (zpow_le_zpow_right₀ (by norm_num) (by omega))
      rw [hzero]
  · next hsmall =>
      split
      · next hlarge =>
          refine (ofMagnitude?_eq_none_iff.2 (d.infinite_le_rounded_iff.2 ?_)).symm
          calc (2 : ℚ) ^ 1024 - 2 ^ 970 ≤ 10 ^ (310 : ℤ) := bound_le_ten_pow
            _ ≤ 10 ^ (d.exponent + digitCount d.significand - 1) :=
              zpow_le_zpow_right₀ (by norm_num) (by omega)
            _ ≤ d.magnitude := ten_zpow_le_magnitude d fun h => hsmall (Or.inl h)
      · rfl

/-- A decimal has no double exactly if it reaches the bound. -/
theorem ofDecimal?_eq_none_iff {d : Decimal} :
    ofDecimal? d = none ↔ (2 : ℚ) ^ 1024 - 2 ^ 970 ≤ d.magnitude := by
  rw [ofDecimal?_eq, ofMagnitude?_eq_none_iff, d.infinite_le_rounded_iff]

/-- A double is read from the decimals that are rounded to its magnitude and have its sign. -/
theorem ofDecimal?_eq_some_iff {d : Decimal} {x : Binary64} :
    ofDecimal? d = some x ↔ x.negative = d.negative ∧ RoundsTo d.magnitude x.magnitude := by
  rw [ofDecimal?_eq, ofMagnitude?]
  constructor
  · intro h
    split at h
    · obtain rfl := Option.some.inj h
      exact ⟨rfl, d.roundsTo_rounded⟩
    · exact absurd h (by simp)
  · rintro ⟨hsign, hrounds⟩
    have hmagnitude : d.rounded = x.magnitude := d.roundsTo_rounded.unique hrounds
    have hfinite : d.rounded < infinite := hmagnitude ▸ x.finite
    rw [dif_pos hfinite]
    cases x
    simp_all

theorem exists_ofDecimal?_iff {d : Decimal} :
    (∃ x, ofDecimal? d = some x) ↔ d.magnitude < 2 ^ 1024 - 2 ^ 970 := by
  rw [← not_le, ← ofDecimal?_eq_none_iff, ← ne_eq, Option.ne_none_iff_exists']

end Binary64

end LosslessScanner
