import Mathlib.Algebra.Order.Ring.Nat
import LosslessScanner.Number.Binary64

/-!
# Where rounding overflows

A magnitude that is not finite comes about in two ways: the number rounded is
beyond the binade of the largest double, or it is in that binade and the
rounding carries out of its top. The carry happens from the middle between the
largest double and the number after it, and in the middle as well, because the
significand of the largest double is odd.

In units of `2 ^ -1074` that middle is `(2 ^ 54 - 1) * 2 ^ 2044`. Everything
here is about natural numbers, a fraction being two of them; that this is what
decimals do is the next file's matter.
-/

namespace LosslessScanner

/-! ## Rounding one quotient -/

/-- A number is rounded down or up, and down only if the rest is at most half. -/
theorem roundHalfEven_cases (p q : Nat) :
    (roundHalfEven p q = p / q ∧ 2 * (p % q) ≤ q) ∨
      (roundHalfEven p q = p / q + 1 ∧ q ≤ 2 * (p % q)) := by
  simp only [roundHalfEven]
  split
  · exact Or.inl ⟨rfl, by omega⟩
  split
  · exact Or.inr ⟨rfl, by omega⟩
  split
  · exact Or.inl ⟨rfl, by omega⟩
  · exact Or.inr ⟨rfl, by omega⟩

theorem roundHalfEven_bounds (p q : Nat) :
    p / q ≤ roundHalfEven p q ∧ roundHalfEven p q ≤ p / q + 1 := by
  rcases roundHalfEven_cases p q with ⟨hround, -⟩ | ⟨hround, -⟩
  · omega
  · omega

/-- From an odd number halfway is up. -/
theorem roundHalfEven_of_odd {p q : Nat} (hodd : p / q % 2 = 1) (hhalf : q ≤ 2 * (p % q)) :
    roundHalfEven p q = p / q + 1 := by
  simp only [roundHalfEven]
  rw [if_neg (by omega), hodd]
  split
  · rfl
  · rfl

/-- A quotient of 53 bits gets one more bit exactly from the middle above the largest of them. -/
theorem le_roundHalfEven_iff {p q : Nat} (hq : 0 < q) (hlt : p / q < 2 ^ 53) :
    2 ^ 53 ≤ roundHalfEven p q ↔ (2 ^ 54 - 1) * q ≤ 2 * p := by
  have hp := Nat.div_add_mod p q
  have hr := Nat.mod_lt p hq
  by_cases htop : p / q = 2 ^ 53 - 1
  · rw [htop] at hp
    constructor
    · intro h
      rcases roundHalfEven_cases p q with ⟨hround, -⟩ | ⟨-, hhalf⟩
      · omega
      · omega
    · intro h
      rw [roundHalfEven_of_odd (by omega) (by omega)]
      omega
  · have hmax : q * (p / q) ≤ q * (2 ^ 53 - 2) := Nat.mul_le_mul_left q (by omega)
    have hround := (roundHalfEven_bounds p q).2
    exact iff_of_false (by omega) (by omega)

namespace Binary64

/-! ## Binades -/

/-- The exponent of the unit in the last place of `p / q`, counted from the least one. -/
def excess (p q : Nat) : Nat := (p / q).log2 - 52

theorem nearest_eq (p q : Nat) :
    nearest p q = excess p q * 2 ^ 52 + roundHalfEven p (q * 2 ^ excess p q) := rfl

theorem infinite_eq : infinite = 0x7ff * 2 ^ 52 := rfl

theorem div_mul_two_pow (p q e : Nat) : p / (q * 2 ^ e) = p / q / 2 ^ e :=
  (Nat.div_div_eq_div_mul p q (2 ^ e)).symm

/-- In these units a number has at most 53 bits. -/
theorem div_excess_lt (p q : Nat) : p / (q * 2 ^ excess p q) < 2 ^ 53 := by
  rw [div_mul_two_pow, Nat.div_lt_iff_lt_mul (Nat.two_pow_pos _), ← Nat.pow_add]
  have hlt : p / q < 2 ^ ((p / q).log2 + 1) := Nat.lt_log2_self
  have hle : 2 ^ ((p / q).log2 + 1) ≤ 2 ^ (53 + excess p q) :=
    Nat.pow_le_pow_right (by decide) (by rw [excess]; omega)
  exact Nat.lt_of_lt_of_le hlt hle

/-- It has just as many, unless the unit is the least one. -/
theorem le_div_excess {p q : Nat} (h : excess p q ≠ 0) :
    2 ^ 52 ≤ p / (q * 2 ^ excess p q) := by
  have hpos : p / q ≠ 0 := by
    intro hzero
    rw [excess, hzero] at h
    exact h rfl
  rw [div_mul_two_pow, Nat.le_div_iff_mul_le (Nat.two_pow_pos _), ← Nat.pow_add]
  have hlog : 52 + excess p q = (p / q).log2 := by
    rw [excess] at h ⊢
    omega
  rw [hlog]
  exact Nat.log2_self_le hpos

theorem excess_mul_le {p q : Nat} (h : excess p q ≠ 0) :
    2 ^ 52 * (q * 2 ^ excess p q) ≤ p :=
  Nat.le_trans (Nat.mul_le_mul_right _ (le_div_excess h)) (Nat.div_mul_le_self p _)

theorem lt_excess_mul {p q : Nat} (hq : 0 < q) : p < 2 ^ 53 * (q * 2 ^ excess p q) := by
  have hpos : 0 < q * 2 ^ excess p q := Nat.mul_pos hq (Nat.two_pow_pos _)
  exact (Nat.div_lt_iff_lt_mul hpos).1 (div_excess_lt p q)

/-! ## Overflow -/

/-- The exponent of the unit of the last binade but one. It is a name, so that nobody works out
the power. -/
@[irreducible] def lastButOne : Nat := 2044

theorem lastButOne_eq : lastButOne = 2044 := by rw [lastButOne]

theorem lastButOne_eq_add : lastButOne = 970 + leastPlace := by rw [lastButOne, leastPlace]

/-- The middle between the largest double and the next number, in units. -/
def overflow : Nat := (2 ^ 54 - 1) * 2 ^ lastButOne

theorem overflow_mul (q : Nat) : overflow * q = (2 ^ 54 - 1) * (q * 2 ^ lastButOne) := by
  rw [overflow, Nat.mul_assoc, Nat.mul_comm (2 ^ lastButOne) q]

/-- Below the top binade rounding reaches the top binade at most. -/
theorem below_top {p q : Nat} (hq : 0 < q) (h : excess p q < 2045) :
    nearest p q < infinite ∧ p < overflow * q := by
  constructor
  · have hlt := div_excess_lt p q
    have hle := (roundHalfEven_bounds p (q * 2 ^ excess p q)).2
    rw [nearest_eq, infinite_eq]
    omega
  · have hlt := lt_excess_mul (p := p) hq
    have hpos : 0 < q * 2 ^ excess p q := Nat.mul_pos hq (Nat.two_pow_pos _)
    have hexponent : excess p q ≤ lastButOne := by rw [lastButOne_eq]; omega
    have hstep : q * 2 ^ excess p q ≤ q * 2 ^ lastButOne :=
      Nat.mul_le_mul_left q (Nat.pow_le_pow_right (by decide) hexponent)
    rw [overflow_mul]
    omega

/-- Above it nothing is finite. -/
theorem above_top {p q : Nat} (h : 2045 < excess p q) :
    infinite ≤ nearest p q ∧ overflow * q ≤ p := by
  have hne : excess p q ≠ 0 := by omega
  constructor
  · have hge := le_div_excess hne
    have hle := (roundHalfEven_bounds p (q * 2 ^ excess p q)).1
    rw [nearest_eq, infinite_eq]
    omega
  · have hge := excess_mul_le hne
    have hexponent : lastButOne + 2 ≤ excess p q := by rw [lastButOne_eq]; omega
    have hstep : q * 2 ^ (lastButOne + 2) ≤ q * 2 ^ excess p q :=
      Nat.mul_le_mul_left q (Nat.pow_le_pow_right (by decide) hexponent)
    rw [Nat.pow_add, ← Nat.mul_assoc] at hstep
    rw [overflow_mul]
    omega

/-- What is rounded to a magnitude that is not finite. -/
theorem infinite_le_nearest_iff {p q : Nat} (hq : 0 < q) :
    infinite ≤ nearest p q ↔ overflow * q ≤ p := by
  rcases Nat.lt_trichotomy (excess p q) 2045 with hbelow | htop | habove
  · obtain ⟨hnearest, hp⟩ := below_top hq hbelow
    exact iff_of_false (Nat.not_le_of_lt hnearest) (Nat.not_le_of_lt hp)
  · have hpos : 0 < q * 2 ^ excess p q := Nat.mul_pos hq (Nat.two_pow_pos _)
    have hcarry := le_roundHalfEven_iff hpos (div_excess_lt p q)
    have hinfinite :
        infinite ≤ nearest p q ↔ 2 ^ 53 ≤ roundHalfEven p (q * 2 ^ excess p q) := by
      rw [nearest_eq, infinite_eq]
      omega
    have hexponent : excess p q = lastButOne + 1 := by rw [lastButOne_eq, htop]
    have hstep : q * 2 ^ excess p q = q * 2 ^ lastButOne * 2 := by
      rw [hexponent, Nat.pow_succ, Nat.mul_assoc]
    rw [hinfinite, hcarry, overflow_mul, hstep]
    omega
  · obtain ⟨hnearest, hp⟩ := above_top habove
    exact iff_of_true hnearest hp

end Binary64

end LosslessScanner
