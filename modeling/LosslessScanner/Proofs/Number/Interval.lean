import Mathlib.Algebra.Order.Field.Basic
import Mathlib.Algebra.Order.Ring.Rat
import Mathlib.Order.Monotone.Basic
import Mathlib.Tactic.Linarith
import Mathlib.Tactic.Ring
import LosslessScanner.Proofs.Number.Rounding

/-!
# What is rounded to a magnitude

The numbers that are rounded to a magnitude are those up to the middle between
it and each of its neighbours, the middle itself if the magnitude is even. Here
this is taken as a relation, `RoundsTo`, between any non-negative rational
number and any magnitude, and the rounding of fractions is shown to obey it.

The rest is about order, and never about digits or bits. Magnitudes are in the
order of their values, so the intervals of two of them meet in an end at most,
and a common end is tied to the even one. So a number is rounded to one magnitude
only, and larger numbers are not rounded to smaller magnitudes.
-/

namespace LosslessScanner.Binary64

/-! ## Gaps -/

/-- How far the next magnitude is above a magnitude, in units. -/
def gap (m : ℕ) : ℕ := 2 ^ (m / 2 ^ 52 - 1)

theorem gap_pos (m : ℕ) : 0 < gap m := Nat.two_pow_pos _

theorem units_eq (m : ℕ) :
    units m = if m < 2 ^ 52 then m else (2 ^ 52 + m % 2 ^ 52) * 2 ^ (m / 2 ^ 52 - 1) := rfl

/-- The value of a significand with its exponent. A significand of 54 bits is a carry and has
the same value as in the binade above. -/
theorem units_binade {e n : ℕ} (hleast : e = 0 ∨ 2 ^ 52 ≤ n) (hn : n ≤ 2 ^ 53) :
    units (e * 2 ^ 52 + n) = n * 2 ^ e := by
  rw [units_eq]
  by_cases hsmall : e * 2 ^ 52 + n < 2 ^ 52
  · obtain rfl : e = 0 := by omega
    rw [if_pos hsmall, Nat.zero_mul, Nat.zero_add, Nat.pow_zero, Nat.mul_one]
  · rw [if_neg hsmall]
    by_cases hcarry : n = 2 ^ 53
    · have hdiv : (e * 2 ^ 52 + n) / 2 ^ 52 - 1 = e + 1 := by omega
      have hmod : (e * 2 ^ 52 + n) % 2 ^ 52 = 0 := by omega
      rw [hdiv, hmod, hcarry, Nat.pow_succ 2 e]
      omega
    · have hdiv : (e * 2 ^ 52 + n) / 2 ^ 52 - 1 = e := by omega
      have hmod : 2 ^ 52 + (e * 2 ^ 52 + n) % 2 ^ 52 = n := by omega
      rw [hdiv, hmod]

/-- A magnitude as a significand with its exponent. -/
theorem exists_binade (m : ℕ) :
    ∃ e n, m = e * 2 ^ 52 + n ∧ (e = 0 ∨ 2 ^ 52 ≤ n) ∧ n < 2 ^ 53 ∧ gap m = 2 ^ e := by
  refine ⟨m / 2 ^ 52 - 1, m - (m / 2 ^ 52 - 1) * 2 ^ 52, by omega, by omega, by omega, rfl⟩

theorem units_succ (m : ℕ) : units (m + 1) = units m + gap m := by
  obtain ⟨e, n, hm, hleast, hn, hgap⟩ := exists_binade m
  rw [hgap, hm, Nat.add_assoc, units_binade (by omega) (by omega), units_binade hleast (by omega),
    Nat.succ_mul]

theorem units_lt_gap_mul (m : ℕ) : units m < 2 ^ 53 * gap m := by
  obtain ⟨e, n, hm, hleast, hn, hgap⟩ := exists_binade m
  rw [hgap, hm, units_binade hleast (by omega)]
  exact Nat.mul_lt_mul_of_pos_right hn (Nat.two_pow_pos e)

/-- The gaps on both sides are the same but at the bottom of a binade, where the one below is
half of the one above. -/
theorem gap_pred {m : ℕ} (hm : 0 < m) :
    gap (m - 1) = gap m ∨ gap m = 2 * gap (m - 1) ∧ units m = 2 ^ 52 * gap m := by
  by_cases hbottom : m % 2 ^ 52 = 0 ∧ 2 ≤ m / 2 ^ 52
  · obtain ⟨hmod, hbinade⟩ := hbottom
    refine Or.inr ⟨?_, ?_⟩
    · have hexponent : m / 2 ^ 52 - 1 = (m - 1) / 2 ^ 52 - 1 + 1 := by omega
      rw [gap, gap, hexponent, Nat.pow_succ, Nat.mul_comm]
    · rw [units_eq, if_neg (by omega), hmod, gap]
      rfl
  · refine Or.inl ?_
    have hexponent : (m - 1) / 2 ^ 52 - 1 = m / 2 ^ 52 - 1 := by omega
    rw [gap, gap, hexponent]

theorem units_strictMono : StrictMono units := by
  refine strictMono_nat_of_lt_succ fun m => ?_
  have hgap := gap_pos m
  rw [units_succ]
  omega

/-! ## Intervals -/

/-- The value of a magnitude. -/
def size (m : ℕ) : ℚ := units m / 2 ^ leastPlace

theorem two_pow_leastPlace_pos : (0 : ℚ) < 2 ^ leastPlace := pow_pos (by norm_num) leastPlace

theorem size_strictMono : StrictMono size := by
  intro m n h
  have hunits : (units m : ℚ) < units n := by exact_mod_cast units_strictMono h
  exact div_lt_div_of_pos_right hunits two_pow_leastPlace_pos

theorem size_zero : size 0 = 0 := by
  have hunits : units 0 = 0 := rfl
  rw [size, hunits, Nat.cast_zero, zero_div]

theorem size_nonneg (m : ℕ) : 0 ≤ size m := by
  rw [← size_zero]
  exact size_strictMono.monotone (Nat.zero_le m)

/-- A number lies between the middles on both sides of a magnitude. Zero has no neighbour below
and counts as its own. -/
structure RoundsTo (q : ℚ) (m : ℕ) : Prop where
  lower : size (m - 1) + size m ≤ 2 * q
  upper : 2 * q ≤ size m + size (m + 1)
  tie : 2 * q = size (m - 1) + size m ∨ 2 * q = size m + size (m + 1) → m % 2 = 0

namespace RoundsTo

variable {q r : ℚ} {m n : ℕ}

theorem nonneg (h : RoundsTo q m) : 0 ≤ q := by
  have hlower := h.lower
  have hpred := size_nonneg (m - 1)
  have hsize := size_nonneg m
  linarith

/-- The interval of a larger magnitude is above. -/
theorem le_of_lt (hq : RoundsTo q m) (hr : RoundsTo r n) (h : m < n) : q ≤ r := by
  have hbelow : size m ≤ size (n - 1) := size_strictMono.monotone (by omega)
  have habove : size (m + 1) ≤ size n := size_strictMono.monotone (by omega)
  have hupper := hq.upper
  have hlower := hr.lower
  linarith

/-- If they meet, it is in the middle of two neighbours, of which only one is even. -/
theorem not_lt (hq : RoundsTo q m) (hr : RoundsTo q n) : ¬ m < n := by
  intro h
  have hbelow : size m ≤ size (n - 1) := size_strictMono.monotone (by omega)
  have habove : size (m + 1) ≤ size n := size_strictMono.monotone (by omega)
  have hupper := hq.upper
  have hlower := hr.lower
  have hm : m % 2 = 0 := hq.tie (Or.inr (by linarith))
  have hn : n % 2 = 0 := hr.tie (Or.inl (by linarith))
  have hnext : size (m + 1) = size n := by linarith
  have : m + 1 = n := size_strictMono.injective hnext
  omega

theorem unique (hm : RoundsTo q m) (hn : RoundsTo q n) : m = n :=
  Nat.le_antisymm (Nat.le_of_not_lt (hn.not_lt hm)) (Nat.le_of_not_lt (hm.not_lt hn))

theorem mono (hq : RoundsTo q m) (hr : RoundsTo r n) (h : q ≤ r) : m ≤ n := by
  refine Nat.le_of_not_lt fun hlt => ?_
  obtain rfl : q = r := le_antisymm h (hr.le_of_lt hq hlt)
  exact hr.not_lt hq hlt

/-- No magnitude is nearer to the number, and one as near leaves it to the even. -/
theorem nearest (h : RoundsTo q m) (n : ℕ) :
    |size m - q| ≤ |size n - q| ∧ (|size m - q| = |size n - q| → n = m ∨ m % 2 = 0) := by
  have hlower := h.lower
  have hupper := h.upper
  rcases Nat.lt_trichotomy n m with hlt | rfl | hlt
  · have hpred : size n ≤ size (m - 1) := size_strictMono.monotone (by omega)
    have hsize : size n < size m := size_strictMono hlt
    have hn : |size n - q| = q - size n := by rw [abs_sub_comm, abs_of_nonneg (by linarith)]
    rw [hn]
    rcases abs_cases (size m - q) with ⟨habs, -⟩ | ⟨habs, -⟩
    · rw [habs]
      exact ⟨by linarith, fun heq => Or.inr (h.tie (Or.inl (by linarith)))⟩
    · rw [habs]
      exact ⟨by linarith, fun heq => absurd hsize (by linarith)⟩
  · exact ⟨le_rfl, fun _ => Or.inl rfl⟩
  · have hsucc : size (m + 1) ≤ size n := size_strictMono.monotone (by omega)
    have hsize : size m < size n := size_strictMono hlt
    have hn : |size n - q| = size n - q := abs_of_nonneg (by linarith)
    rw [hn]
    rcases abs_cases (size m - q) with ⟨habs, -⟩ | ⟨habs, -⟩
    · rw [habs]
      exact ⟨by linarith, fun heq => absurd hsize (by linarith)⟩
    · rw [habs]
      exact ⟨by linarith, fun heq => Or.inr (h.tie (Or.inr (by linarith)))⟩

end RoundsTo

/-! ## Rounding fractions -/

/-- The interval in whole numbers, for a number that is a fraction of units. -/
theorem roundsTo_iff {q : ℚ} {a b : ℕ} (hb : 0 < b) (h : q * 2 ^ leastPlace * b = a) (m : ℕ) :
    RoundsTo q m ↔
      (units (m - 1) + units m) * b ≤ 2 * a ∧ 2 * a ≤ (units m + units (m + 1)) * b ∧
        (2 * a = (units (m - 1) + units m) * b ∨ 2 * a = (units m + units (m + 1)) * b →
          m % 2 = 0) := by
  have hscale : (0 : ℚ) < 2 ^ leastPlace * b :=
    mul_pos two_pow_leastPlace_pos (by exact_mod_cast hb)
  have htwo : ((2 * a : ℕ) : ℚ) = 2 * q * (2 ^ leastPlace * b) := by
    rw [Nat.cast_mul, ← h, Nat.cast_ofNat]
    ring
  have hmiddle (k l : ℕ) :
      (((units k + units l) * b : ℕ) : ℚ) = (size k + size l) * (2 ^ leastPlace * b) := by
    rw [Nat.cast_mul, Nat.cast_add, size, size, ← add_div, ← mul_assoc,
      div_mul_cancel₀ _ two_pow_leastPlace_pos.ne']
  have hle (k l : ℕ) : (units k + units l) * b ≤ 2 * a ↔ size k + size l ≤ 2 * q := by
    rw [← @Nat.cast_le ℚ, hmiddle, htwo, mul_le_mul_iff_left₀ hscale]
  have hge (k l : ℕ) : 2 * a ≤ (units k + units l) * b ↔ 2 * q ≤ size k + size l := by
    rw [← @Nat.cast_le ℚ, hmiddle, htwo, mul_le_mul_iff_left₀ hscale]
  have heq (k l : ℕ) : 2 * a = (units k + units l) * b ↔ 2 * q = size k + size l := by
    rw [← @Nat.cast_inj ℚ, hmiddle, htwo, mul_left_inj' hscale.ne']
  rw [hle, hge, heq, heq]
  constructor
  · rintro ⟨hlower, hupper, htie⟩
    exact ⟨hlower, hupper, htie⟩
  · rintro ⟨hlower, hupper, htie⟩
    exact ⟨hlower, hupper, htie⟩

/-- Halfway a number is rounded to an even one. -/
theorem roundHalfEven_tie {p q : ℕ} (hq : 0 < q)
    (h : 2 * p = 2 * (roundHalfEven p q * q) + q ∨ 2 * p + q = 2 * (roundHalfEven p q * q)) :
    roundHalfEven p q % 2 = 0 := by
  have hp : p / q * q + p % q = p := Nat.div_add_mod' p q
  have hr : p % q < q := Nat.mod_lt p hq
  have hs : (p / q + 1) * q = p / q * q + q := Nat.succ_mul _ _
  simp only [roundHalfEven] at h ⊢
  split at h
  · omega
  split at h
  · omega
  split at h
  · next heven => rw [if_neg (by omega), if_neg (by omega), if_pos heven]; exact heven
  · next hodd => rw [if_neg (by omega), if_neg (by omega), if_neg hodd]; omega

/-- What rounding `p / q` units has found: a significand and its exponent. It has 53 bits unless
the exponent is the least one, and a 54th if there was a carry. -/
structure Rounded (p q e n : ℕ) : Prop where
  le : n ≤ 2 ^ 53
  least : e = 0 ∨ 2 ^ 52 ≤ n
  top : p < 2 ^ 53 * (q * 2 ^ e)
  bottom : e = 0 ∨ 2 ^ 52 * (q * 2 ^ e) ≤ p
  below : 2 * (n * (q * 2 ^ e)) ≤ 2 * p + q * 2 ^ e
  above : 2 * p ≤ 2 * (n * (q * 2 ^ e)) + q * 2 ^ e
  tie : 2 * p = 2 * (n * (q * 2 ^ e)) + q * 2 ^ e ∨ 2 * p + q * 2 ^ e = 2 * (n * (q * 2 ^ e)) →
    n % 2 = 0

theorem exists_rounded {p q : ℕ} (hq : 0 < q) :
    ∃ e n, nearest p q = e * 2 ^ 52 + n ∧ Rounded p q e n := by
  have hpos : 0 < q * 2 ^ excess p q := Nat.mul_pos hq (Nat.two_pow_pos _)
  have hlt := div_excess_lt p q
  obtain ⟨hdown, hup⟩ := roundHalfEven_bounds p (q * 2 ^ excess p q)
  obtain ⟨hbelow, habove⟩ := roundHalfEven_near p hpos
  refine ⟨excess p q, roundHalfEven p (q * 2 ^ excess p q), nearest_eq p q, by omega, ?_,
    lt_excess_mul hq, ?_, hbelow, habove, roundHalfEven_tie hpos⟩
  · by_cases he : excess p q = 0
    · exact Or.inl he
    · exact Or.inr (Nat.le_trans (le_div_excess he) hdown)
  · by_cases he : excess p q = 0
    · exact Or.inl he
    · exact Or.inr (excess_mul_le he)

namespace Rounded

variable {p q e n m : ℕ} (h : Rounded p q e n) (hm : m = e * 2 ^ 52 + n)

include h hm

theorem units_eq : units m = n * 2 ^ e := by rw [hm, units_binade h.least h.le]

-- At the bottom of a binade the neighbour below is in another one, with a smaller gap. There the
-- number is not below the magnitude, and this does for the bound that rounding gives.
theorem lower :
    (units (m - 1) + units m) * q ≤ 2 * p ∧
      (2 * p = (units (m - 1) + units m) * q → m % 2 = 0) := by
  have hunits := h.units_eq hm
  have hbelow := h.below
  have htie := h.tie
  have hleast := h.least
  have hn := h.le
  by_cases hinner : e = 0 ∨ 2 ^ 52 < n
  · rcases Nat.eq_zero_or_pos n with hzero | hpos
    · obtain rfl : m = 0 := by omega
      exact ⟨by rw [show units (0 - 1) + units 0 = 0 from rfl]; omega, fun _ => rfl⟩
    · obtain ⟨k, rfl⟩ : ∃ k, n = k + 1 := ⟨n - 1, by omega⟩
      have hpred : m - 1 = e * 2 ^ 52 + k := by omega
      have hsum : (k * 2 ^ e + (k + 1) * 2 ^ e) * q + q * 2 ^ e =
          2 * ((k + 1) * (q * 2 ^ e)) := by ring
      rw [hunits, hpred, units_binade (by omega) (by omega)]
      omega
  · have hbottom := h.bottom.resolve_left fun he => hinner (Or.inl he)
    have hpred : units (m - 1) * q ≤ units m * q :=
      Nat.mul_le_mul_right q (units_strictMono.monotone (Nat.sub_le m 1))
    have hself : 2 ^ 52 * (q * 2 ^ e) = units m * q := by
      rw [hunits, show n = 2 ^ 52 by omega]
      ring
    rw [Nat.add_mul]
    omega

-- A carry leads to the bottom of the next binade, with a larger gap above. The number is not above
-- the magnitude then.
theorem upper :
    2 * p ≤ (units m + units (m + 1)) * q ∧
      (2 * p = (units m + units (m + 1)) * q → m % 2 = 0) := by
  have hunits := h.units_eq hm
  have habove := h.above
  have htie := h.tie
  have hleast := h.least
  rcases Nat.lt_or_eq_of_le h.le with hinner | hcarry
  · have hsum : (n * 2 ^ e + (n + 1) * 2 ^ e) * q = 2 * (n * (q * 2 ^ e)) + q * 2 ^ e := by ring
    rw [hunits, hm, Nat.add_assoc, units_binade (by omega) (by omega)]
    omega
  · have htop := h.top
    have hsucc : units m * q ≤ units (m + 1) * q :=
      Nat.mul_le_mul_right q (units_strictMono.monotone (Nat.le_succ m))
    have hself : 2 ^ 53 * (q * 2 ^ e) = units m * q := by
      rw [hunits, hcarry]
      ring
    rw [Nat.add_mul]
    omega

end Rounded

/-- A fraction of units is rounded to the magnitude whose interval it is in. -/
theorem roundsTo_nearest {p q : ℕ} (hq : 0 < q) {r : ℚ} (h : r * 2 ^ leastPlace * q = p) :
    RoundsTo r (nearest p q) := by
  obtain ⟨e, n, hm, hrounded⟩ := exists_rounded (p := p) hq
  obtain ⟨hlower, hlowerTie⟩ := hrounded.lower hm
  obtain ⟨hupper, hupperTie⟩ := hrounded.upper hm
  exact (roundsTo_iff hq h _).2 ⟨hlower, hupper, fun htie => htie.elim hlowerTie hupperTie⟩

end LosslessScanner.Binary64
