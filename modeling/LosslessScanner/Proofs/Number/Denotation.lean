import Mathlib.Algebra.Order.Ring.Rat
import Mathlib.Data.List.Induction
import Mathlib.Data.List.TakeWhile
import Mathlib.Data.Nat.Digits.Defs
import LosslessScanner.Number.Numeral
import LosslessScanner.Proofs.Classes

/-!
# What a numeral denotes

A reader of numerals multiplies and adds as it goes. What it ought to find is
the sum of the digits times the powers of ten of their places, and behind the
point the places have negative powers. Here that sum is written down without a
reader, and reading digits from the left to the right is shown to find it.
-/

namespace LosslessScanner

/-! ## Place value -/

/-- The number that digits denote by their places; the last is the place of the ones. -/
def naturalValue (t : Text) : ℕ := Nat.ofDigits 10 (t.reverse.map digitValue)

/-- The digits behind the point. -/
def fractionOf (t : Text) : Text := (t.dropWhile (· ≠ '.')).tail

/-- The number that digits around a point denote. -/
def rationalValue (t : Text) : ℚ :=
  naturalValue (t.takeWhile (· ≠ '.')) +
    naturalValue (fractionOf t) / 10 ^ (fractionOf t).length

theorem naturalValue_append (t u : Text) :
    naturalValue (t ++ u) = naturalValue t * 10 ^ u.length + naturalValue u := by
  rw [naturalValue, List.reverse_append, List.map_append, Nat.ofDigits_append, List.length_map,
    List.length_reverse, Nat.mul_comm, Nat.add_comm]
  rfl

theorem naturalValue_concat (t : Text) (c : Char) :
    naturalValue (t ++ [c]) = 10 * naturalValue t + digitValue c := by
  have hlast : naturalValue [c] = digitValue c := Nat.ofDigits_singleton
  rw [naturalValue_append, hlast, List.length_singleton, pow_one, Nat.mul_comm]

/-- Reading digits from the left to the right gives their value. The induction takes the last
digit off, since that is the one that the reader adds last. -/
theorem ofDigits_eq_naturalValue (t : Text) : ofDigits t = naturalValue t := by
  induction t using List.reverseRecOn with
  | nil => rfl
  | append_singleton t c ih =>
      have hstep : ofDigits (t ++ [c]) = 10 * ofDigits t + digitValue c := by
        rw [ofDigits, List.foldl_append]
        rfl
      rw [hstep, ih, naturalValue_concat]

/-- Zeros in front do not matter, whatever their number. -/
theorem ofDigits_zeros_append (n : Nat) (t : Text) :
    ofDigits (List.replicate n '0' ++ t) = ofDigits t := by
  rw [ofDigits_eq_naturalValue, ofDigits_eq_naturalValue, naturalValue, List.reverse_append,
    List.map_append, List.reverse_replicate, List.map_replicate]
  exact Nat.ofDigits_append_replicate_zero _

/-- The point of digits around a point is the only one there is before the fraction. -/
theorem rationalValue_point {w : Text} (whole : ∀ c ∈ w, isDigit c) (f : Text) :
    rationalValue (w ++ '.' :: f) = naturalValue w + naturalValue f / 10 ^ f.length := by
  have hne : ∀ c ∈ w, decide (c ≠ '.') = true := fun c hc =>
    decide_eq_true (ne_point_of_digit (whole c hc))
  have hfraction : fractionOf (w ++ '.' :: f) = f := by
    rw [fractionOf, List.dropWhile_append_of_pos hne, List.dropWhile_cons_of_neg (by decide),
      List.tail_cons]
  rw [rationalValue, hfraction, List.takeWhile_append_of_pos hne,
    List.takeWhile_cons_of_neg (by decide), List.append_nil]

end LosslessScanner
