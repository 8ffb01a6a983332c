import LosslessScanner.Literal
import LosslessScanner.Proofs.Number.Digits
import LosslessScanner.Proofs.Number.Grammar
import LosslessScanner.Proofs.Number.Nearest
import LosslessScanner.Proofs.Number.Shortest

/-!
# Numbers as they are written

What a style writes is the text of a numeral, whichever way the style goes: with
the digits in place or in scientific form, with a sign in front of a positive
exponent or without. So the readers' theory applies to it, and instead of reading
a text one only has to say which number its parts denote.

Moving the point and changing the exponent by as much is all that tells one form
from the other. There are three ways for the point to stand in place, and for each
of them the zeros that are filled in make up for the exponent.
-/

namespace LosslessScanner

/-! ## Integers -/

namespace IntegerNumeral

/-- The numeral of a number with a given sign. -/
def ofInt (s : Sign) (n : ℤ) : IntegerNumeral :=
  ⟨s, Text.ofNat n.natAbs, Text.ofNat_ne_nil _, Text.isDigit_of_mem_ofNat⟩

theorem naturalValue_ofNat (n : ℕ) : naturalValue (Text.ofNat n) = n := by
  rw [← ofDigits_eq_naturalValue, Text.ofDigits_ofNat]

theorem value_ofInt {s : Sign} {n : ℤ} (h : s.negative = decide (n < 0)) :
    (ofInt s n).value = n := by
  have hvalue : (ofInt s n).value = s.apply (n.natAbs : ℤ) := by
    rw [value, ofInt, naturalValue_ofNat]
  rw [hvalue, Sign.apply, h]
  split
  · next hneg =>
      have hneg := of_decide_eq_true hneg
      omega
  · next hpos =>
      have hpos := of_decide_eq_false (eq_false_of_ne_true hpos)
      omega

end IntegerNumeral

theorem Literal.exists_writeInt (n : ℤ) :
    ∃ a : IntegerNumeral, a.text = Literal.writeInt n ∧ a.value = n := by
  by_cases hneg : n < 0
  · refine ⟨.ofInt .minus n, ?_, IntegerNumeral.value_ofInt (decide_eq_true hneg).symm⟩
    rw [Literal.writeInt, if_pos hneg]
    rfl
  · refine ⟨.ofInt .none n, ?_, IntegerNumeral.value_ofInt (decide_eq_false hneg).symm⟩
    rw [Literal.writeInt, if_neg hneg]
    rfl

/-! ## Digits with a point or an exponent -/

namespace DecimalNumeral

/-- The same numeral with a sign in front. -/
def withSign (a : DecimalNumeral) (s : Sign) : DecimalNumeral := { a with sign := s }

theorem text_withSign {a : DecimalNumeral} (h : a.sign = .none) (s : Sign) :
    (a.withSign s).text = s.text ++ a.text := by
  rw [text, text, h]
  rfl

end DecimalNumeral

theorem naturalValue_zeros_append (n : ℕ) (t : Text) :
    naturalValue (List.replicate n '0' ++ t) = naturalValue t := by
  rw [← ofDigits_eq_naturalValue, ofDigits_zeros_append, ofDigits_eq_naturalValue]

theorem naturalValue_append_zeros (t : Text) (n : ℕ) :
    naturalValue (t ++ List.replicate n '0') = naturalValue t * 10 ^ n := by
  have hzeros : naturalValue (List.replicate n '0') = 0 := by
    rw [← List.append_nil (List.replicate n '0'), naturalValue_zeros_append]
    rfl
  rw [naturalValue_append, hzeros, List.length_replicate, Nat.add_zero]

theorem isDigit_of_mem_zeros {n : ℕ} : ∀ c ∈ List.replicate n '0', isDigit c := by
  intro c hc
  rw [(List.mem_replicate.1 hc).2]
  rfl

namespace FloatStyle

/-- The number that digits denote if the first of them counts powers of ten `e`. -/
def placedValue (ds : Text) (e : ℤ) : ℚ := naturalValue ds * 10 ^ (e + 1 - ds.length)

-- The three ways in which the point can stand: in front of the digits, behind them, among them.
section Point

variable (ds : Text) {e : ℤ}

theorem value_point_before (h : e < 0) :
    (naturalValue (['0'] ++ (List.replicate (-e - 1).toNat '0' ++ ds)) : ℚ) *
        10 ^ (0 - (List.replicate (-e - 1).toNat '0' ++ ds).length : ℤ) = placedValue ds e := by
  have hvalue : naturalValue (['0'] ++ (List.replicate (-e - 1).toNat '0' ++ ds)) =
      naturalValue ds := by
    rw [← List.append_assoc]
    exact naturalValue_zeros_append ((-e - 1).toNat + 1) ds
  have hplace : (0 - (List.replicate (-e - 1).toNat '0' ++ ds).length : ℤ) =
      e + 1 - ds.length := by
    rw [List.length_append, List.length_replicate]
    omega
  rw [placedValue, hvalue, hplace]

theorem value_point_behind (hpos : 0 ≤ e) (h : ds.length ≤ e.toNat + 1) :
    (naturalValue (ds ++ List.replicate (e.toNat + 1 - ds.length) '0' ++ ['0']) : ℚ) *
        10 ^ (0 - (['0'] : Text).length : ℤ) = placedValue ds e := by
  have hvalue : naturalValue (ds ++ List.replicate (e.toNat + 1 - ds.length) '0' ++ ['0']) =
      naturalValue ds * 10 ^ (e.toNat + 1 - ds.length + 1) := by
    rw [List.append_assoc, ← List.replicate_succ', naturalValue_append_zeros]
  have hplace : ((e.toNat + 1 - ds.length + 1 : ℕ) : ℤ) + (0 - (['0'] : Text).length : ℤ) =
      e + 1 - ds.length := by
    rw [List.length_singleton]
    omega
  rw [placedValue, hvalue, Nat.cast_mul, Nat.cast_pow, Nat.cast_ofNat, ← zpow_natCast, mul_assoc,
    ← zpow_add₀ (by norm_num), hplace]

theorem value_point_among (hpos : 0 ≤ e) (h : e.toNat + 1 < ds.length) :
    (naturalValue (ds.take (e.toNat + 1) ++ ds.drop (e.toNat + 1)) : ℚ) *
        10 ^ (0 - (ds.drop (e.toNat + 1)).length : ℤ) = placedValue ds e := by
  have hplace : (0 - (ds.drop (e.toNat + 1)).length : ℤ) = e + 1 - ds.length := by
    rw [List.length_drop]
    omega
  rw [placedValue, List.take_append_drop, hplace]

end Point

section Forms

variable {ds : Text} (ne : ds ≠ []) (digit : ∀ c ∈ ds, isDigit c)

include ne digit

/-- In place there are digits on both sides of a point. -/
theorem exists_inPlace (e : ℤ) :
    ∃ w f, inPlace ds e = w ++ '.' :: f ∧ w ≠ [] ∧ f ≠ [] ∧ (∀ c ∈ w, isDigit c) ∧
      (∀ c ∈ f, isDigit c) ∧
      (naturalValue (w ++ f) : ℚ) * 10 ^ (0 - f.length : ℤ) = placedValue ds e := by
  have hzero : ∀ c ∈ ['0'], isDigit c := by
    intro c hc
    rw [List.mem_singleton.1 hc]
    rfl
  have happend {u v : Text} (hu : ∀ c ∈ u, isDigit c) (hv : ∀ c ∈ v, isDigit c) :
      ∀ c ∈ u ++ v, isDigit c := fun c hc => (List.mem_append.1 hc).elim (hu c) (hv c)
  rw [inPlace]
  split
  · next hneg =>
      exact ⟨['0'], List.replicate (-e - 1).toNat '0' ++ ds, rfl, by simp, by simp [ne], hzero,
        happend isDigit_of_mem_zeros digit, value_point_before ds hneg⟩
  · next hpos =>
      have hpos : 0 ≤ e := Int.not_lt.1 hpos
      simp only
      split
      · next hshort =>
          exact ⟨ds ++ List.replicate (e.toNat + 1 - ds.length) '0', ['0'], by simp, by simp [ne],
            by simp, happend digit isDigit_of_mem_zeros, hzero,
            value_point_behind ds hpos hshort⟩
      · next hlong =>
          have hlong : e.toNat + 1 < ds.length := Nat.lt_of_not_le hlong
          refine ⟨ds.take (e.toNat + 1), ds.drop (e.toNat + 1), by simp, by simp [ne], ?_,
            fun c hc => digit c (List.mem_of_mem_take hc),
            fun c hc => digit c (List.mem_of_mem_drop hc), value_point_among ds hpos hlong⟩
          rw [ne_eq, List.drop_eq_nil_iff]
          omega

end Forms

/-- The exponent of a scientific form. -/
def exponentPart (plus : Bool) (e : ℤ) : ExponentPart :=
  ⟨false, .ofInt (if e < 0 then .minus else if plus then .plus else .none) e⟩

theorem value_exponentPart (plus : Bool) (e : ℤ) :
    DecimalNumeral.exponentValue (some (exponentPart plus e)) = e := by
  refine IntegerNumeral.value_ofInt ?_
  split
  · next hneg => exact (decide_eq_true hneg).symm
  · next hpos =>
      rw [decide_eq_false hpos]
      cases plus with
      | false => rfl
      | true => rfl

theorem text_exponentPart (plus : Bool) (e : ℤ) :
    DecimalNumeral.exponentText (some (exponentPart plus e)) =
      ['e'] ++ (if e < 0 then ['-'] else if plus then ['+'] else []) ++ Text.ofNat e.natAbs := by
  rw [DecimalNumeral.exponentText, exponentPart, IntegerNumeral.text, IntegerNumeral.ofInt]
  split
  · rfl
  · cases plus with
    | false => rfl
    | true => rfl

/-- In scientific form there is an exponent, and a point behind the first digit if there is a
second. -/
theorem exists_scientific {ds : Text} (ne : ds ≠ []) (digit : ∀ c ∈ ds, isDigit c) (plus : Bool)
    (e : ℤ) :
    ∃ a : DecimalNumeral, a.sign = .none ∧ a.text = scientific plus ds e ∧ a.exponent.isSome ∧
      a.decimal.magnitude = placedValue ds e := by
  have hexponent := value_exponentPart plus e
  have htext := text_exponentPart plus e
  match ds, ne, digit with
  | [d], _, digit =>
      refine ⟨⟨.none, [d], none, some (exponentPart plus e), digit, nofun, by simp⟩, rfl, ?_, rfl, ?_⟩
      · simp only [DecimalNumeral.text, htext]
        rfl
      · have hplace : e - ([] : Text).length = e + 1 - [d].length := by simp
        change (naturalValue ([d] ++ []) : ℚ) * 10 ^ (DecimalNumeral.exponentValue _ - _) = _
        rw [hexponent, placedValue, ← hplace, List.append_nil]
        rfl
  | d :: d' :: rest, _, digit =>
      refine ⟨⟨.none, [d], some (d' :: rest), some (exponentPart plus e), ?_, ?_, by simp⟩, rfl, ?_,
        rfl, ?_⟩
      · exact fun c hc => digit c (List.mem_cons.2 (Or.inl (List.mem_singleton.1 hc)))
      · exact fun c hc => digit c (List.mem_cons_of_mem d hc)
      · simp only [DecimalNumeral.text, htext, scientific]
        simp [DecimalNumeral.pointText, Sign.text]
      · have hplace : e - (d' :: rest).length = e + 1 - (d :: d' :: rest).length := by
          simp only [List.length_cons]
          omega
        change (naturalValue ([d] ++ d' :: rest) : ℚ) * 10 ^ (DecimalNumeral.exponentValue _ - _) = _
        rw [hexponent, placedValue, ← hplace]
        rfl

/-- A decimal in any style is a numeral with a point or an exponent, and denotes the decimal. -/
theorem exists_writeDigits (s : FloatStyle) (d : Digits) :
    ∃ a : DecimalNumeral, a.sign = .none ∧ a.text = s.writeDigits d ∧
      (a.fraction.isSome ∨ a.exponent.isSome) ∧ a.decimal.magnitude = d.value := by
  have hvalue : placedValue (Text.ofNat d.significand)
      (d.exponent + (Text.ofNat d.significand).length - 1) = d.value := by
    rw [placedValue, IntegerNumeral.naturalValue_ofNat, Digits.value]
    congr 2
    omega
  have ne : Text.ofNat d.significand ≠ [] := Text.ofNat_ne_nil _
  have digit : ∀ c ∈ Text.ofNat d.significand, isDigit c := Text.isDigit_of_mem_ofNat
  simp only [writeDigits]
  split
  · obtain ⟨w, f, htext, hw, -, whole, fraction, hmagnitude⟩ := exists_inPlace ne digit _
    refine ⟨⟨.none, w, some f, none, whole, fraction, fun h => hw h.1⟩, rfl, ?_, Or.inl rfl, ?_⟩
    · rw [htext]
      simp [DecimalNumeral.text, DecimalNumeral.pointText, DecimalNumeral.exponentText, Sign.text]
    · exact hmagnitude.trans hvalue
  · obtain ⟨a, hsign, htext, hsome, hmagnitude⟩ := exists_scientific ne digit s.plus _
    exact ⟨a, hsign, htext, Or.inr hsome, hmagnitude.trans hvalue⟩

/-- A double in any style is a numeral with a point or an exponent, and reads back: it has the sign
of the double and is rounded to its magnitude. -/
theorem exists_write (s : FloatStyle) (x : Binary64) :
    ∃ a : DecimalNumeral, a.text = s.write x ∧ (a.fraction.isSome ∨ a.exponent.isSome) ∧
      Binary64.ofDecimal? a.decimal = some x := by
  have hunsigned : ∃ a : DecimalNumeral, a.sign = .none ∧
      a.text = (if x.magnitude = 0 then ['0', '.', '0']
        else s.writeDigits (Binary64.shortest s.tie x.magnitude)) ∧
      (a.fraction.isSome ∨ a.exponent.isSome) ∧
      Binary64.RoundsTo a.decimal.magnitude x.magnitude := by
    split
    · next hzero =>
        refine ⟨⟨.none, ['0'], some ['0'], none, by simp [isDigit], by simp [isDigit], by simp⟩,
          rfl, rfl, Or.inl rfl, ?_⟩
        have hmagnitude : Decimal.magnitude ⟨false, 0, 0 - 1⟩ = 0 := by
          rw [Decimal.magnitude, Nat.cast_zero, zero_mul]
        rw [hzero]
        exact Binary64.roundsTo_zero hmagnitude.ge (hmagnitude ▸ zpow_pos (by norm_num) _)
    · next hpos =>
        obtain ⟨a, hsign, htext, hsome, hmagnitude⟩ :=
          s.exists_writeDigits (Binary64.shortest s.tie x.magnitude)
        refine ⟨a, hsign, htext, hsome, ?_⟩
        rw [hmagnitude]
        exact Binary64.roundsTo_shortest (Nat.pos_of_ne_zero hpos) s.tie
  obtain ⟨a, hsign, htext, hsome, hrounds⟩ := hunsigned
  refine ⟨a.withSign (if x.negative then .minus else .none), ?_, hsome, ?_⟩
  · rw [DecimalNumeral.text_withSign hsign, htext, write]
    cases x.negative with
    | false => rfl
    | true => rfl
  · refine Binary64.ofDecimal?_eq_some_iff.2 ⟨?_, hrounds⟩
    change x.negative = Sign.negative _
    cases x.negative with
    | false => rfl
    | true => rfl

end FloatStyle

end LosslessScanner
