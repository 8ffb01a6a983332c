import LosslessScanner.Literal
import LosslessScanner.Proofs.Number.Grammar

/-!
# Converting integers

An integer token has a value exactly if its contents are an integer numeral
whose number fits into 32 bits with a sign. How many digits it takes does not
matter, and neither do zeros in front.

The number is taken in full before its size is looked at. A reader that has only
32 bits can do as well if it gives up at the first step that would leave them:
what it has read so far grows with every digit and never comes back, so that
there is such a step exactly if the number does not fit in the end.
-/

namespace LosslessScanner

/-! ## Thirty-two bits -/

/-- The number in 32 bits, if it fits. -/
def narrow? (n : ℤ) : Option Int32 :=
  if Int32.minValue.toInt ≤ n ∧ n ≤ Int32.maxValue.toInt then some (Int32.ofInt n) else none

theorem fits_iff {n : ℤ} :
    Int32.minValue.toInt ≤ n ∧ n ≤ Int32.maxValue.toInt ↔ -2147483648 ≤ n ∧ n ≤ 2147483647 :=
  Iff.rfl

theorem fits_toInt (m : Int32) : -2147483648 ≤ m.toInt ∧ m.toInt ≤ 2147483647 :=
  ⟨m.minValue_le_toInt, m.toInt_le⟩

theorem narrow?_eq_some_iff {n : ℤ} {m : Int32} : narrow? n = some m ↔ m.toInt = n := by
  rw [narrow?]
  constructor
  · intro h
    obtain ⟨⟨hmin, hmax⟩, hvalue⟩ := Option.ite_none_right_eq_some.1 h
    rw [← Option.some.inj hvalue]
    exact Int32.toInt_ofInt_of_le hmin (Int.lt_of_le_of_lt hmax (by decide))
  · rintro rfl
    rw [if_pos (fits_iff.2 (fits_toInt m)), Int32.ofInt_toInt]

theorem narrow?_eq_none_iff {n : ℤ} :
    narrow? n = none ↔ ¬ (-2147483648 ≤ n ∧ n ≤ 2147483647) := by
  rw [narrow?, ite_eq_right_iff, ← fits_iff]
  exact ⟨fun h hfits => absurd (h hfits) nofun, fun h hfits => absurd hfits h⟩

/-- What is out of range stays so further away from zero. -/
theorem narrow?_apply_eq_none {s : Sign} {k l : ℕ} (h : narrow? (s.apply (k : ℤ)) = none)
    (hle : k ≤ l) : narrow? (s.apply (l : ℤ)) = none := by
  rw [narrow?_eq_none_iff, Sign.apply] at h ⊢
  split
  · next hneg =>
      rw [if_pos hneg] at h
      omega
  · next hpos =>
      rw [if_neg hpos] at h
      omega

/-! ## Reading within 32 bits -/

/-- One more digit behind those read. -/
def push? (s : Sign) (n : Int32) (c : Char) : Option Int32 :=
  (narrow? (10 * n.toInt)).bind fun m => narrow? (m.toInt + s.apply (digitValue c : ℤ))

/-- The number of digits with a sign; none as soon as it does not fit. -/
def accumulate? (s : Sign) (t : Text) : Option Int32 := t.foldlM (push? s) 0

theorem push?_eq {s : Sign} {n : Int32} {k : ℕ} (hn : n.toInt = s.apply (k : ℤ)) (c : Char) :
    push? s n c = narrow? (s.apply ((10 * k + digitValue c : ℕ) : ℤ)) := by
  have hten : 10 * n.toInt = s.apply ((10 * k : ℕ) : ℤ) := by
    rw [hn, Sign.apply, Sign.apply]
    split
    · omega
    · omega
  have hsum : s.apply ((10 * k : ℕ) : ℤ) + s.apply (digitValue c : ℤ) =
      s.apply ((10 * k + digitValue c : ℕ) : ℤ) := by
    rw [Sign.apply, Sign.apply, Sign.apply]
    split
    · omega
    · omega
  rw [push?, hten]
  cases hnarrow : narrow? (s.apply ((10 * k : ℕ) : ℤ)) with
  | some m => rw [Option.bind_some, narrow?_eq_some_iff.1 hnarrow, hsum]
  | none => rw [Option.bind_none, narrow?_apply_eq_none hnarrow (Nat.le_add_right _ _)]

-- The induction takes the last digit off, since that is the one that is read last.
theorem accumulate?_eq (s : Sign) (t : Text) :
    accumulate? s t = narrow? (s.apply (naturalValue t : ℤ)) := by
  induction t using List.reverseRecOn with
  | nil => cases s <;> rfl
  | append_singleton t c ih =>
      have hstep : accumulate? s (t ++ [c]) = (accumulate? s t).bind fun n => push? s n c := by
        rw [accumulate?, List.foldlM_append, accumulate?]
        cases t.foldlM (push? s) 0 with
        | none => rfl
        | some n => exact bind_pure (push? s n c)
      rw [hstep, ih, naturalValue_concat]
      cases hread : narrow? (s.apply (naturalValue t : ℤ)) with
      | some n => exact push?_eq (narrow?_eq_some_iff.1 hread) c
      | none => rw [Option.bind_none, narrow?_apply_eq_none hread (by omega)]

/-! ## Tokens -/

namespace Token

theorem int32?_eq (t : Text) :
    (Token.mk .integer t).int32? =
      match (integerNumeral? t).bind narrow? with
      | some n => .ok n
      | none => .error ⟨.invalidInteger t, Span.none⟩ := by
  rw [int32?, if_pos rfl]
  cases integerNumeral? t with
  | none => rfl
  | some n =>
      change (if Int32.minValue.toInt ≤ n ∧ n ≤ Int32.maxValue.toInt then _ else _) = _
      rw [Option.bind_some, narrow?]
      split
      · rfl
      · rfl

/-- An integer token has the value that its numeral denotes, if that fits. -/
theorem int32?_eq_ok_iff {t : Text} {n : Int32} :
    (Token.mk .integer t).int32? = .ok n ↔
      ∃ a : IntegerNumeral, a.text = t ∧ a.value = n.toInt := by
  have hbind : (integerNumeral? t).bind narrow? = some n ↔
      ∃ a : IntegerNumeral, a.text = t ∧ a.value = n.toInt := by
    rw [Option.bind_eq_some_iff, ← IntegerNumeral.read_eq_some_iff]
    constructor
    · rintro ⟨k, hk, hfits⟩
      rw [hk, narrow?_eq_some_iff.1 hfits]
    · intro h
      exact ⟨n.toInt, h, narrow?_eq_some_iff.2 rfl⟩
  rw [← hbind, int32?_eq]
  cases (integerNumeral? t).bind narrow? with
  | none => exact iff_of_false nofun nofun
  | some m => exact ⟨fun h => congrArg some (Except.ok.inj h), fun h => congrArg _ (Option.some.inj h)⟩

/-- Whatever the contents of an integer token, there is a value or the error that names them. -/
theorem int32?_cases (t : Text) :
    (∃ n, (Token.mk .integer t).int32? = .ok n) ∨
      (Token.mk .integer t).int32? = .error ⟨.invalidInteger t, Span.none⟩ := by
  rw [int32?_eq]
  cases (integerNumeral? t).bind narrow? with
  | none => exact Or.inr rfl
  | some n => exact Or.inl ⟨n, rfl⟩

/-- An integer token has a value exactly if its contents are a sign or none and then digits, one at
least, that denote a number within 32 bits, and that number is its value; otherwise the error
repeats the contents. A reader confined to 32 bits finds the same for every numeral, however
long: it overflows on the way exactly if the number does not fit. -/
theorem integer_value_iff (t : Text) :
    (∀ n : ℤ, (∃ m : Int32, (Token.mk .integer t).int32? = .ok m ∧ m.toInt = n) ↔
      (∃ a : IntegerNumeral, a.text = t ∧ a.value = n) ∧ -2147483648 ≤ n ∧ n ≤ 2147483647) ∧
    ((Token.mk .integer t).int32? = .error ⟨.invalidInteger t, Span.none⟩ ↔
      ∀ a : IntegerNumeral, a.text = t → ¬ (-2147483648 ≤ a.value ∧ a.value ≤ 2147483647)) ∧
    ∀ a : IntegerNumeral, a.text = t →
      accumulate? a.sign a.digits = (Token.mk .integer t).int32?.toOption := by
  refine ⟨fun n => ⟨?_, ?_⟩, ⟨?_, ?_⟩, ?_⟩
  · rintro ⟨m, hok, rfl⟩
    exact ⟨int32?_eq_ok_iff.1 hok, fits_toInt m⟩
  · rintro ⟨⟨a, htext, rfl⟩, hfits⟩
    cases hnarrow : narrow? a.value with
    | none => exact absurd hfits (narrow?_eq_none_iff.1 hnarrow)
    | some m =>
        have hm := narrow?_eq_some_iff.1 hnarrow
        exact ⟨m, int32?_eq_ok_iff.2 ⟨a, htext, hm.symm⟩, hm⟩
  · rintro herror a rfl hfits
    cases hnarrow : narrow? a.value with
    | none => exact absurd hfits (narrow?_eq_none_iff.1 hnarrow)
    | some m =>
        rw [int32?_eq_ok_iff.2 ⟨a, rfl, (narrow?_eq_some_iff.1 hnarrow).symm⟩] at herror
        exact absurd herror nofun
  · intro h
    refine (int32?_cases t).resolve_left ?_
    rintro ⟨n, hok⟩
    obtain ⟨a, htext, hvalue⟩ := int32?_eq_ok_iff.1 hok
    refine h a htext ?_
    rw [hvalue]
    exact fits_toInt n
  · rintro a rfl
    rw [accumulate?_eq, int32?_eq, IntegerNumeral.read_text, Option.bind_some]
    change narrow? a.value = _
    cases narrow? a.value with
    | none => rfl
    | some m => rfl

end Token

end LosslessScanner
