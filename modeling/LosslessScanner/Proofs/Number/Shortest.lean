import Mathlib.Tactic.FieldSimp
import LosslessScanner.Number.Shortest
import LosslessScanner.Proofs.Number.Interval
import LosslessScanner.Proofs.Number.Range

/-!
# Shortest decimals read back

A search over seventeen grids gives the digits of a double. It looks at two
points of each grid and takes one only if that is rounded to the double, so what
it finds reads back; what has to be shown is that it finds something.

The last grid is fine enough. Its step is at most a part in `10 ^ 16` of the
value, the gap to the next double more than a part in `2 ^ 53`, and so the gap is
the wider one. Then of the two points around the value one is less than half a
gap away. At the bottom of a binade the gap below is only half as wide, but there
the value is so small for its gap that the point above it will do.
-/

namespace LosslessScanner

/-! ## Digits -/

/-- The number that digits stand for. -/
def Digits.value (d : Digits) : ℚ := d.significand * 10 ^ d.exponent

namespace Digits

theorem value_normalize (s : ℕ) (e : ℤ) : (normalize s e).value = s * 10 ^ e := by
  fun_induction normalize s e with
  | case1 s e h ih =>
      have hten : s = s / 10 * 10 := by omega
      rw [ih, zpow_add₀ (by norm_num), zpow_one]
      conv => rhs; rw [hten]
      rw [Nat.cast_mul, Nat.cast_ofNat]
      ring
  | case2 s e h => rfl

theorem normalize_pos {s : ℕ} (e : ℤ) (hs : 0 < s) : 0 < (normalize s e).significand := by
  fun_induction normalize s e with
  | case1 s e h ih => exact ih (by omega)
  | case2 s e h => exact hs

end Digits

namespace Binary64

/-! ## Grids -/

/-- The step of a grid in common units. -/
def step (place : ℕ) : ℕ := 10 ^ place * 2 ^ (leastPlace + 1)

theorem step_pos (place : ℕ) : 0 < step place :=
  Nat.mul_pos (Nat.pow_pos (by decide)) (Nat.two_pow_pos _)

theorem midpoint_eq (m : ℕ) : midpoint m = scaled m + gap m * 10 ^ decimalPlaces := by
  rw [midpoint, scaled, units_succ, ← Nat.add_mul]
  congr 1
  omega

theorem midpoint_pred {m : ℕ} (hm : 0 < m) :
    midpoint (m - 1) + gap (m - 1) * 10 ^ decimalPlaces = scaled m := by
  have hunits : units m = units (m - 1) + gap (m - 1) := by
    rw [← units_succ, Nat.sub_add_cancel hm]
  rw [midpoint, scaled, Nat.sub_add_cancel hm, hunits, ← Nat.add_mul]
  congr 1
  omega

theorem roundsTo_eq_true_iff {m x : ℕ} :
    roundsTo m x = true ↔ midpoint (m - 1) ≤ x ∧ x ≤ midpoint m ∧
      (x = midpoint (m - 1) ∨ x = midpoint m → m % 2 = 0) := by
  rw [roundsTo]
  split
  · next heven => simp [heven]
  · next hodd =>
      simp only [Bool.and_eq_true, decide_eq_true_eq]
      omega

/-- A grid point that is taken for a double is rounded to it. -/
theorem roundsTo_grid_iff {m : ℕ} (hm : 0 < m) (d place : ℕ) :
    roundsTo m (d * step place) = true ↔
      RoundsTo (d * 10 ^ (place - decimalPlaces : ℤ)) m := by
  have hten : (10 : ℚ) ^ decimalPlaces ≠ 0 := pow_ne_zero _ (by norm_num)
  have hvalue : (d : ℚ) * 10 ^ (place - decimalPlaces : ℤ) * 2 ^ leastPlace *
      (10 ^ decimalPlaces : ℕ) = (d * 10 ^ place * 2 ^ leastPlace : ℕ) := by
    rw [zpow_sub₀ (by norm_num), zpow_natCast, zpow_natCast]
    push_cast
    field_simp
  have hdouble : 2 * (d * 10 ^ place * 2 ^ leastPlace) = d * step place := by
    rw [step, Nat.pow_succ]
    ring
  rw [roundsTo_eq_true_iff, roundsTo_iff (Nat.pow_pos (by decide)) hvalue, hdouble, midpoint,
    midpoint, Nat.sub_add_cancel hm]

section Grid

variable {tie : Tie} {m place : ℕ}

/-- A point found on a grid is rounded to the double, and it is one of the two around the value. -/
theorem of_onGrid? {d : ℕ} (h : onGrid? tie m place = some d) :
    roundsTo m (d * step place) = true ∧ scaled m / step place ≤ d := by
  simp only [onGrid?] at h
  split at h
  · exact absurd h nofun
  · next hbelow _ =>
      obtain rfl := Option.some.inj h
      exact ⟨hbelow, le_rfl⟩
  · next _ habove =>
      obtain rfl := Option.some.inj h
      exact ⟨habove, Nat.le_succ _⟩
  · next hbelow habove =>
      have hchoice : d = scaled m / step place ∨ d = scaled m / step place + 1 := by
        split at h
        · exact Or.inl (Option.some.inj h).symm
        split at h
        · exact Or.inr (Option.some.inj h).symm
        cases tie with
        | up => exact Or.inr (Option.some.inj h).symm
        | even =>
            have h := Option.some.inj h
            split at h
            · exact Or.inl h.symm
            · exact Or.inr h.symm
      rcases hchoice with rfl | rfl
      · exact ⟨hbelow, le_rfl⟩
      · exact ⟨habove, Nat.le_succ _⟩

theorem exists_onGrid? (h : roundsTo m (scaled m / step place * step place) = true ∨
    roundsTo m ((scaled m / step place + 1) * step place) = true) :
    ∃ d, onGrid? tie m place = some d := by
  simp only [onGrid?]
  split
  · next hbelow habove =>
      rcases h with h | h
      · exact absurd (hbelow.symm.trans h) nofun
      · exact absurd (habove.symm.trans h) nofun
  · exact ⟨_, rfl⟩
  · exact ⟨_, rfl⟩
  · split
    · exact ⟨_, rfl⟩
    split
    · exact ⟨_, rfl⟩
    cases tie with
    | up => exact ⟨_, rfl⟩
    | even => exact ⟨_, rfl⟩

/-- A grid of seventeen digits has a point for every double. -/
theorem exists_onGrid?_of_fine (tie : Tie) (hm : 0 < m) (hfine : 10 ^ 16 * step place ≤ scaled m) :
    ∃ d, onGrid? tie m place = some d := by
  have habove := midpoint_eq m
  have hbelow := midpoint_pred hm
  have hgap : 0 < gap m * 10 ^ decimalPlaces := Nat.mul_pos (gap_pos m) (Nat.pow_pos (by decide))
  have hvalue : scaled m < 2 ^ 54 * (gap m * 10 ^ decimalPlaces) := by
    have hunits : units m * 10 ^ decimalPlaces < 2 ^ 53 * gap m * 10 ^ decimalPlaces :=
      Nat.mul_lt_mul_of_pos_right (units_lt_gap_mul m) (Nat.pow_pos (by decide))
    rw [scaled, Nat.mul_assoc]
    rw [Nat.mul_assoc] at hunits
    omega
  have hdown : scaled m / step place * step place ≤ scaled m := Nat.div_mul_le_self _ _
  have hup : scaled m < (scaled m / step place + 1) * step place := by
    rw [Nat.mul_comm]
    exact Nat.lt_mul_div_succ _ (step_pos place)
  rw [Nat.succ_mul] at hup
  refine exists_onGrid? ?_
  rw [roundsTo_eq_true_iff, roundsTo_eq_true_iff, Nat.succ_mul]
  generalize scaled m / step place * step place = point at hdown hup ⊢
  rcases gap_pred hm with hsame | ⟨hhalf, hbottom⟩
  · -- The step is less than the gap, so one of the two points is less than half a gap away.
    rw [hsame] at hbelow
    omega
  · -- The step is less than half of the gap above, so the point above is near enough.
    have hdouble : gap m * 10 ^ decimalPlaces = 2 * (gap (m - 1) * 10 ^ decimalPlaces) := by
      rw [hhalf, Nat.mul_assoc]
    have hscaled : scaled m = 2 ^ 53 * (gap m * 10 ^ decimalPlaces) := by
      rw [scaled, hbottom]
      ring
    omega

end Grid

/-! ## The search -/

/-- How many digits the value has before and behind the point up to the last place of a common
unit. -/
def places (m : ℕ) : ℕ := digitCount (scaled m / 2 ^ (leastPlace + 1))

theorem shortest_eq (tie : Tie) (m : ℕ) :
    shortest tie m = ((List.range 17).findSome? fun n =>
      (onGrid? tie m (places m - (n + 1))).map fun d =>
        Digits.normalize d (places m - (n + 1) - decimalPlaces)).getD ⟨0, 0⟩ := rfl

theorem lt_places {m k : ℕ} (h : 10 ^ k * 2 ^ (leastPlace + 1) ≤ scaled m) : k < places m := by
  have hdigits : 10 ^ k < 10 ^ places m :=
    Nat.lt_of_le_of_lt ((Nat.le_div_iff_mul_le (Nat.two_pow_pos _)).2 h) (lt_ten_pow_digitCount _)
  exact (Nat.pow_lt_pow_iff_right (by decide)).1 hdigits

theorem ten_pow_sixteen_le : 10 ^ 16 * 2 ^ (leastPlace + 1) ≤ 2 * 10 ^ decimalPlaces := by
  decide +kernel

section Search

variable {m : ℕ} (hm : 0 < m)

include hm

theorem ten_pow_sixteen_mul_le : 10 ^ 16 * 2 ^ (leastPlace + 1) ≤ scaled m := by
  have hunits : 1 ≤ units m := units_strictMono hm
  have hone : 2 * 10 ^ decimalPlaces ≤ 2 * units m * 10 ^ decimalPlaces :=
    Nat.mul_le_mul_right _ (Nat.mul_le_mul_left 2 hunits)
  exact Nat.le_trans ten_pow_sixteen_le hone

theorem ten_pow_places_le : 10 ^ (places m - 1) * 2 ^ (leastPlace + 1) ≤ scaled m := by
  rw [← Nat.le_div_iff_mul_le (Nat.two_pow_pos _)]
  refine ten_pow_pred_digitCount_le (Nat.ne_of_gt ?_)
  exact Nat.div_pos (Nat.le_trans (Nat.le_mul_of_pos_left _ (by decide))
    (ten_pow_sixteen_mul_le hm)) (Nat.two_pow_pos _)

/-- The search finds a point on some grid, and the shortest decimal is that point. -/
theorem exists_shortest (tie : Tie) :
    ∃ place d, place < places m ∧ onGrid? tie m place = some d ∧
      (shortest tie m).value = d * 10 ^ (place - decimalPlaces : ℤ) ∧
      (0 < d → 0 < (shortest tie m).significand) := by
  have hplaces : 16 < places m := lt_places (ten_pow_sixteen_mul_le hm)
  have hfine : 10 ^ 16 * step (places m - 17) ≤ scaled m := by
    have hpow : 10 ^ (places m - 1) = 10 ^ 16 * 10 ^ (places m - 17) := by
      rw [← Nat.pow_add]
      congr 1
      omega
    rw [step, ← Nat.mul_assoc, ← hpow]
    exact ten_pow_places_le hm
  obtain ⟨d₀, hlast⟩ := exists_onGrid?_of_fine tie hm hfine
  rw [shortest_eq]
  cases hfind : (List.range 17).findSome? fun n =>
      (onGrid? tie m (places m - (n + 1))).map fun d =>
        Digits.normalize d (places m - (n + 1) - decimalPlaces) with
  | none =>
      have hnone := List.findSome?_eq_none_iff.1 hfind 16 (by decide)
      rw [Option.map_eq_none_iff, hlast] at hnone
      exact absurd hnone nofun
  | some digits =>
      obtain ⟨n, hn, hmap⟩ := List.exists_of_findSome?_eq_some hfind
      obtain ⟨d, hd, rfl⟩ := Option.map_eq_some_iff.1 hmap
      have hlt : n < 17 := List.mem_range.1 hn
      have hcast : ((places m - (n + 1) : ℕ) : ℤ) = places m - (n + 1) := by omega
      refine ⟨places m - (n + 1), d, by omega, hd, ?_, fun hpos => ?_⟩
      · rw [Option.getD_some, Digits.value_normalize, hcast]
      · rw [Option.getD_some]
        exact Digits.normalize_pos _ hpos

/-- The shortest decimal reads back. -/
theorem roundsTo_shortest (tie : Tie) : RoundsTo (shortest tie m).value m := by
  obtain ⟨place, d, -, hd, hvalue, -⟩ := exists_shortest hm tie
  rw [hvalue, ← roundsTo_grid_iff hm]
  exact (of_onGrid? hd).1

theorem shortest_pos (tie : Tie) : 0 < (shortest tie m).significand := by
  obtain ⟨place, d, -, hd, -, hpos⟩ := exists_shortest hm tie
  refine hpos (Nat.pos_of_ne_zero ?_)
  rintro rfl
  have hlower := (roundsTo_eq_true_iff.1 (of_onGrid? hd).1).1
  have hone : 0 < units m := units_strictMono hm
  have hmiddle : 0 < midpoint (m - 1) := by
    rw [midpoint, Nat.sub_add_cancel hm]
    exact Nat.mul_pos (by omega) (Nat.pow_pos (by decide))
  omega

/-- The shortest decimal has not lost a power of ten that the value reaches: that power is on every
grid that is searched. -/
theorem ten_pow_le_shortest (tie : Tie) {k : ℕ} (h : 10 ^ k * 2 ^ (leastPlace + 1) ≤ scaled m) :
    10 ^ (k - decimalPlaces : ℤ) ≤ (shortest tie m).value := by
  obtain ⟨place, d, hplace, hd, hvalue, -⟩ := exists_shortest hm tie
  have hk : k < places m := lt_places h
  have hpow : 10 ^ (places m - 1) = 10 ^ (places m - 1 - place) * 10 ^ place := by
    rw [← Nat.pow_add]
    congr 1
    omega
  have hpoint : 10 ^ (places m - 1 - place) ≤ d := by
    refine Nat.le_trans ((Nat.le_div_iff_mul_le (step_pos place)).2 ?_) (of_onGrid? hd).2
    rw [step, ← Nat.mul_assoc, ← hpow]
    exact ten_pow_places_le hm
  have hreach : 10 ^ k ≤ d * 10 ^ place :=
    calc 10 ^ k ≤ 10 ^ (places m - 1) := Nat.pow_le_pow_right (by decide) (by omega)
      _ = 10 ^ (places m - 1 - place) * 10 ^ place := hpow
      _ ≤ d * 10 ^ place := Nat.mul_le_mul_right _ hpoint
  have hcast : (10 : ℚ) ^ k ≤ d * 10 ^ place := by exact_mod_cast hreach
  rw [hvalue, zpow_sub₀ (by norm_num), zpow_sub₀ (by norm_num), zpow_natCast, zpow_natCast,
    zpow_natCast, ← mul_div_assoc]
  exact div_le_div_of_nonneg_right hcast (pow_nonneg (by norm_num) _)

end Search

end Binary64

end LosslessScanner
