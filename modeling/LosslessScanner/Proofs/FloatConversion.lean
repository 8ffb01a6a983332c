import LosslessScanner.Literal
import LosslessScanner.Proofs.Number.Grammar
import LosslessScanner.Proofs.Number.Nearest

/-!
# Converting numbers with a fraction

A token for a number with a fraction has a value exactly if its contents are a
decimal numeral and the number is below the bound from which rounding gives
infinity. The value is the double nearest to that number, whatever the number of
digits and the size of the exponent, with the sign of the numeral.

The grammar has been dealt with and so has the rounding. What is left is that a
numeral and the decimal that is read from it denote the same number, and that
the names of infinities and of what is no number are not numerals, although some
readers take them.
-/

namespace LosslessScanner

namespace DecimalNumeral

theorem abs_value (a : DecimalNumeral) : |a.value| = a.decimal.magnitude := by
  have hnonneg : 0 ≤ a.decimal.magnitude := a.decimal.roundsTo_rounded.nonneg
  rw [value_eq, Sign.apply]
  split
  · rw [abs_neg, abs_of_nonneg hnonneg]
  · exact abs_of_nonneg hnonneg

/-- A numeral has a double if it is below the bound. -/
theorem exists_ofDecimal?_iff (a : DecimalNumeral) :
    (∃ x, Binary64.ofDecimal? a.decimal = some x) ↔ |a.value| < 2 ^ 1024 - 2 ^ 970 := by
  rw [abs_value, Binary64.exists_ofDecimal?_iff]

/-- And then it is the nearest one with the sign of the numeral. -/
theorem ofDecimal?_eq_some_iff (a : DecimalNumeral) {x : Binary64} :
    Binary64.ofDecimal? a.decimal = some x ↔
      |a.value| < 2 ^ 1024 - 2 ^ 970 ∧ x.IsNearest a.value ∧ x.negative = a.sign.negative := by
  have hread {y : Binary64} (hy : Binary64.ofDecimal? a.decimal = some y) :
      y.IsNearest a.value ∧ y.negative = a.sign.negative := by
    obtain ⟨hsign, hrounds⟩ := Binary64.ofDecimal?_eq_some_iff.1 hy
    have hsign : y.negative = a.sign.negative := hsign
    have hvalue : a.value = if y.negative then -a.decimal.magnitude else a.decimal.magnitude := by
      rw [value_eq, Sign.apply, hsign]
    rw [hvalue]
    exact ⟨hrounds.isNearest, hsign⟩
  constructor
  · intro hx
    exact ⟨a.exists_ofDecimal?_iff.1 ⟨x, hx⟩, hread hx⟩
  · rintro ⟨hbound, hnearest, hsign⟩
    obtain ⟨y, hy⟩ := a.exists_ofDecimal?_iff.2 hbound
    obtain ⟨hynearest, hysign⟩ := hread hy
    rw [hy, hnearest.unique hynearest (hsign.trans hysign.symm)]

/-! ## Names -/

/-- The names that some readers of numbers take. -/
def names : List Text := ["inf".toList, "infinity".toList, "nan".toList]

theorem exists_head?_of_name {w : Text} (hw : w.map Char.toLower ∈ names) :
    ∃ c, w.head? = some c ∧ (c.toLower = 'i' ∨ c.toLower = 'n') := by
  cases w with
  | nil => exact absurd hw (by decide)
  | cons c w =>
      refine ⟨c, rfl, ?_⟩
      simp only [names, List.mem_cons, List.not_mem_nil, or_false, List.map_cons] at hw
      rcases hw with h | h | h
      · exact Or.inl (List.cons.inj h).1
      · exact Or.inl (List.cons.inj h).1
      · exact Or.inr (List.cons.inj h).1

theorem toLower_of_digit {c : Char} (h : isDigit c) : c.toLower = c := by
  rw [isDigit_iff] at h
  refine dif_neg fun hupper => ?_
  have hle : 'A'.toNat ≤ c.toNat := hupper.1
  exact absurd (Nat.le_trans hle h.2) (by decide)

/-- With a sign or without, in small letters or capitals, a name is no numeral: a numeral goes on
behind its sign with a digit or a point, and neither is a letter. -/
theorem text_ne_of_name (a : DecimalNumeral) (s : Sign) {w : Text}
    (hw : w.map Char.toLower ∈ names) : a.text ≠ s.text ++ w := by
  intro htext
  obtain ⟨c, hc, hlower⟩ := exists_head?_of_name hw
  have hne {d : Char} (hd : ¬ (d.toLower = 'i' ∨ d.toLower = 'n')) : c ≠ d := by
    rintro rfl
    exact hd hlower
  have hdigit : isDigit c = false := by
    rw [← Bool.not_eq_true]
    intro hdigit
    rw [toLower_of_digit hdigit] at hlower
    rcases hlower with rfl | rfl
    · exact absurd hdigit (by decide)
    · exact absurd hdigit (by decide)
  have hminus : w.head? ≠ some '-' := by
    rw [hc]
    exact fun h => hne (by decide) (Option.some.inj h)
  have hplus : w.head? ≠ some '+' := by
    rw [hc]
    exact fun h => hne (by decide) (Option.some.inj h)
  have hsplit := a.splitSign_text
  rw [htext, Sign.splitSign_append s hminus hplus] at hsplit
  have hhead := a.head?_unsigned hdigit (hne (by decide))
  rw [← (Prod.mk.inj hsplit).2] at hhead
  exact hhead hc

end DecimalNumeral

/-- The bits of the exponent are not all ones, as they are in an infinity and in what is no
number. -/
theorem Binary64.exponentBits_lt (x : Binary64) : x.bits / 2 ^ 52 % 2 ^ 11 < 2 ^ 11 - 1 := by
  have hfinite : x.magnitude < 0x7ff * 2 ^ 52 := x.finite
  have hbits : x.bits = (if x.negative then 2 ^ 63 else 0) + x.magnitude := rfl
  rw [hbits]
  split
  · omega
  · omega

namespace Token

theorem float64?_eq_ok_iff {t : Text} {x : Binary64} :
    (Token.mk .float64 t).float64? = .ok x ↔
      ∃ a : DecimalNumeral, a.text = t ∧ Binary64.ofDecimal? a.decimal = some x := by
  have hbind : (Decimal.ofNumeral? t).bind Binary64.ofDecimal? = some x ↔
      ∃ a : DecimalNumeral, a.text = t ∧ Binary64.ofDecimal? a.decimal = some x := by
    rw [Option.bind_eq_some_iff]
    constructor
    · rintro ⟨d, hd, hx⟩
      obtain ⟨a, htext, rfl⟩ := DecimalNumeral.read_eq_some_iff.1 hd
      exact ⟨a, htext, hx⟩
    · rintro ⟨a, rfl, hx⟩
      exact ⟨a.decimal, a.read_text, hx⟩
  rw [← hbind, float64?, if_pos rfl]
  cases (Decimal.ofNumeral? t).bind Binary64.ofDecimal? with
  | none => exact iff_of_false nofun nofun
  | some y => exact ⟨fun h => congrArg some (Except.ok.inj h), fun h => congrArg _ (Option.some.inj h)⟩

theorem float64?_cases (t : Text) :
    (∃ x, (Token.mk .float64 t).float64? = .ok x) ∨
      (Token.mk .float64 t).float64? = .error ⟨.invalidFloat t, Span.none⟩ := by
  rw [float64?, if_pos rfl]
  cases (Decimal.ofNumeral? t).bind Binary64.ofDecimal? with
  | none => exact Or.inr rfl
  | some x => exact Or.inl ⟨x, rfl⟩

theorem exists_float64?_iff (t : Text) :
    (∃ x, (Token.mk .float64 t).float64? = .ok x) ↔
      ∃ a : DecimalNumeral, a.text = t ∧ |a.value| < 2 ^ 1024 - 2 ^ 970 := by
  constructor
  · rintro ⟨x, hx⟩
    obtain ⟨a, htext, ha⟩ := float64?_eq_ok_iff.1 hx
    exact ⟨a, htext, a.exists_ofDecimal?_iff.1 ⟨x, ha⟩⟩
  · rintro ⟨a, htext, hbound⟩
    obtain ⟨x, hx⟩ := a.exists_ofDecimal?_iff.2 hbound
    exact ⟨x, float64?_eq_ok_iff.2 ⟨a, htext, hx⟩⟩

theorem float64?_eq_error_iff (t : Text) :
    (Token.mk .float64 t).float64? = .error ⟨.invalidFloat t, Span.none⟩ ↔
      ¬ ∃ x, (Token.mk .float64 t).float64? = .ok x := by
  constructor
  · rintro herror ⟨x, hok⟩
    rw [herror] at hok
    exact absurd hok nofun
  · exact (float64?_cases t).resolve_left

/-- A token for a number with a fraction has a value exactly if its contents are a decimal numeral
below the bound, and the value is the nearest double with the sign of the numeral. Otherwise the
error repeats the contents, and so it does for every name of an infinity or of what is no number.
A value is never one of these either. -/
theorem float_value_iff (t : Text) :
    (∀ x : Binary64, (Token.mk .float64 t).float64? = .ok x ↔
      ∃ a : DecimalNumeral, a.text = t ∧ |a.value| < 2 ^ 1024 - 2 ^ 970 ∧
        x.IsNearest a.value ∧ x.negative = a.sign.negative) ∧
    ((∃ x, (Token.mk .float64 t).float64? = .ok x) ↔
      ∃ a : DecimalNumeral, a.text = t ∧ |a.value| < 2 ^ 1024 - 2 ^ 970) ∧
    ((Token.mk .float64 t).float64? = .error ⟨.invalidFloat t, Span.none⟩ ↔
      ∀ a : DecimalNumeral, a.text = t → 2 ^ 1024 - 2 ^ 970 ≤ |a.value|) ∧
    (∀ (s : Sign) (w : Text), t = s.text ++ w → w.map Char.toLower ∈ DecimalNumeral.names →
      (Token.mk .float64 t).float64? = .error ⟨.invalidFloat t, Span.none⟩) ∧
    ∀ x : Binary64, (Token.mk .float64 t).float64? = .ok x →
      x.bits / 2 ^ 52 % 2 ^ 11 < 2 ^ 11 - 1 := by
  refine ⟨fun x => ?_, exists_float64?_iff t, ?_, fun s w htext hw => ?_, fun x _ => ?_⟩
  · rw [float64?_eq_ok_iff]
    exact exists_congr fun a => and_congr_right fun _ => a.ofDecimal?_eq_some_iff
  · rw [float64?_eq_error_iff, exists_float64?_iff]
    simp only [not_exists, not_and, not_lt]
  · rw [float64?_eq_error_iff, exists_float64?_iff]
    rintro ⟨a, rfl, -⟩
    exact a.text_ne_of_name s hw htext
  · exact x.exponentBits_lt

end Token

end LosslessScanner
