import Mathlib.Tactic.FieldSimp
import LosslessScanner.Proofs.Number.Denotation
import LosslessScanner.Proofs.Number.Range
import LosslessScanner.Proofs.Rules

/-!
# The grammar of numerals

A numeral has a sign or none, digits, and if it is a decimal one a point among
them or none and an exponent or none. Here a numeral is given by these parts,
and its text and the number that it denotes are computed from them. There is no
reader in this, so a text can be asked whether it is a numeral at all.

The readers are shown to agree: they take the texts of numerals and nothing
else, and find the number that the parts denote. In one direction a reader has
to find its way back into the parts. It can, because no part begins with a
character that the part in front of it could have gone on with.
-/

namespace LosslessScanner

/-! ## Signs -/

/-- What stands in front of the digits. -/
inductive Sign where
  | none
  | plus
  | minus
  deriving DecidableEq

namespace Sign

def text : Sign → Text
  | none => []
  | plus => ['+']
  | minus => ['-']

def negative : Sign → Bool
  | minus => true
  | _ => false

/-- A number with a sign in front. -/
def apply {α : Type} [Neg α] (s : Sign) (x : α) : α := if s.negative then -x else x

theorem exists_text_append (t : Text) :
    ∃ s : Sign, s.text ++ (splitSign t).2 = t ∧ s.negative = (splitSign t).1 := by
  unfold splitSign
  split
  · exact ⟨minus, rfl, rfl⟩
  · exact ⟨plus, rfl, rfl⟩
  · exact ⟨none, rfl, rfl⟩

/-- A sign is taken off a text that goes on with a digit or a point. -/
theorem splitSign_append (s : Sign) {u : Text} (hminus : u.head? ≠ some '-')
    (hplus : u.head? ≠ some '+') : splitSign (s.text ++ u) = (s.negative, u) := by
  cases s with
  | none =>
      change splitSign u = (false, u)
      unfold splitSign
      split
      · exact absurd rfl hminus
      · exact absurd rfl hplus
      · rfl
  | plus => rfl
  | minus => rfl

end Sign

/-! ## Integers -/

/-- An integer numeral in its parts. -/
structure IntegerNumeral where
  sign : Sign
  digits : Text
  ne : digits ≠ []
  digit : ∀ c ∈ digits, isDigit c

namespace IntegerNumeral

def text (a : IntegerNumeral) : Text := a.sign.text ++ a.digits

def value (a : IntegerNumeral) : ℤ := a.sign.apply (naturalValue a.digits : ℤ)

theorem splitSign_text (a : IntegerNumeral) : splitSign a.text = (a.sign.negative, a.digits) := by
  obtain ⟨c, w, hc⟩ := List.exists_cons_of_ne_nil a.ne
  have hdigit : isDigit c := a.digit c (by rw [hc]; exact List.mem_cons_self)
  refine Sign.splitSign_append a.sign ?_ ?_
  · rw [hc, List.head?_cons, ne_eq, Option.some.injEq]
    rintro rfl
    exact absurd hdigit (by decide)
  · rw [hc, List.head?_cons, ne_eq, Option.some.injEq]
    rintro rfl
    exact absurd hdigit (by decide)

theorem integerNumeral?_eq (t : Text) :
    integerNumeral? t =
      if (splitSign t).2 ≠ [] ∧ (splitSign t).2.all isDigit then
        some (if (splitSign t).1 then -(ofDigits (splitSign t).2 : ℤ) else ofDigits (splitSign t).2)
      else none := rfl

theorem read_text (a : IntegerNumeral) : integerNumeral? a.text = some a.value := by
  have hall : a.digits.all isDigit = true := List.all_eq_true.2 a.digit
  rw [integerNumeral?_eq, splitSign_text, value, Sign.apply, ← ofDigits_eq_naturalValue]
  exact if_pos ⟨a.ne, hall⟩

/-- What the reader takes is an integer numeral, and all of them. -/
theorem read_eq_some_iff {t : Text} {n : ℤ} :
    integerNumeral? t = some n ↔ ∃ a : IntegerNumeral, a.text = t ∧ a.value = n := by
  constructor
  · intro h
    obtain ⟨s, htext, hnegative⟩ := Sign.exists_text_append t
    rw [integerNumeral?_eq] at h
    obtain ⟨⟨ne, hall⟩, hvalue⟩ := Option.ite_none_right_eq_some.1 h
    refine ⟨⟨s, (splitSign t).2, ne, List.all_eq_true.1 hall⟩, htext, ?_⟩
    rw [value, Sign.apply, hnegative, ← ofDigits_eq_naturalValue]
    exact Option.some.inj hvalue
  · rintro ⟨a, rfl, rfl⟩
    exact read_text a

end IntegerNumeral

/-! ## Decimals -/

/-- The exponent of a decimal numeral: its letter, small or capital, and a numeral. -/
structure ExponentPart where
  capital : Bool
  numeral : IntegerNumeral

/-- A decimal numeral in its parts. There is a digit on one side of the point at least. -/
structure DecimalNumeral where
  sign : Sign
  /-- The digits before the point, or all of them if there is no point. -/
  whole : Text
  /-- The digits behind the point, if there is a point. -/
  fraction : Option Text
  exponent : Option ExponentPart
  whole_digit : ∀ c ∈ whole, isDigit c
  fraction_digit : ∀ c ∈ fraction.getD [], isDigit c
  ne : ¬ (whole = [] ∧ fraction.getD [] = [])

namespace DecimalNumeral

def pointText : Option Text → Text
  | none => []
  | some f => '.' :: f

def exponentText : Option ExponentPart → Text
  | none => []
  | some e => (if e.capital then 'E' else 'e') :: e.numeral.text

/-- The power of ten that the exponent stands for; without an exponent it is the zeroth. -/
def exponentValue : Option ExponentPart → ℤ
  | none => 0
  | some e => e.numeral.value

def text (a : DecimalNumeral) : Text :=
  a.sign.text ++ (a.whole ++ (pointText a.fraction ++ exponentText a.exponent))

/-- The digits behind the point; there are none without a point. -/
def places (a : DecimalNumeral) : Text := a.fraction.getD []

def value (a : DecimalNumeral) : ℚ :=
  a.sign.apply ((naturalValue a.whole + naturalValue a.places / 10 ^ a.places.length) *
    10 ^ exponentValue a.exponent)

/-- The numeral as a significand and a power of ten. -/
def decimal (a : DecimalNumeral) : Decimal :=
  ⟨a.sign.negative, naturalValue (a.whole ++ a.places),
    exponentValue a.exponent - a.places.length⟩

theorem value_eq (a : DecimalNumeral) : a.value = a.sign.apply a.decimal.magnitude := by
  have hten : (10 : ℚ) ^ a.places.length ≠ 0 := pow_ne_zero _ (by norm_num)
  have hmagnitude : a.decimal.magnitude =
      (naturalValue a.whole + naturalValue a.places / 10 ^ a.places.length) *
        10 ^ exponentValue a.exponent := by
    rw [Decimal.magnitude, decimal, naturalValue_append, zpow_sub₀ (by norm_num), zpow_natCast,
      Nat.cast_add, Nat.cast_mul, Nat.cast_pow, Nat.cast_ofNat]
    field_simp
  rw [value, hmagnitude]

/-! ### Reading -/

section Parts

variable {f : Option Text} {e : Option ExponentPart}

theorem begins_exponentText (e : Option ExponentPart) :
    Text.begins isDigit (exponentText e) = false ∧ ∀ u, exponentText e ≠ '.' :: u := by
  cases e with
  | none => exact ⟨rfl, nofun⟩
  | some e =>
      obtain ⟨capital, numeral⟩ := e
      cases capital with
      | false => exact ⟨rfl, nofun⟩
      | true => exact ⟨rfl, nofun⟩

theorem begins_pointText (f : Option Text) (e : Option ExponentPart) :
    Text.begins isDigit (pointText f ++ exponentText e) = false := by
  cases f with
  | none => exact (begins_exponentText e).1
  | some f => rfl

theorem exponentPart?_exponentText (e : Option ExponentPart) :
    Decimal.exponentPart? (exponentText e) = some (exponentValue e) := by
  cases e with
  | none => rfl
  | some e =>
      obtain ⟨capital, numeral⟩ := e
      cases capital with
      | false => exact numeral.read_text
      | true => exact numeral.read_text

theorem exists_exponentText {t : Text} {n : ℤ} (h : Decimal.exponentPart? t = some n) :
    ∃ e, exponentText e = t ∧ exponentValue e = n := by
  unfold Decimal.exponentPart? at h
  split at h
  · exact ⟨none, rfl, Option.some.inj h⟩
  · obtain ⟨a, rfl, rfl⟩ := IntegerNumeral.read_eq_some_iff.1 h
    exact ⟨some ⟨false, a⟩, rfl, rfl⟩
  · obtain ⟨a, rfl, rfl⟩ := IntegerNumeral.read_eq_some_iff.1 h
    exact ⟨some ⟨true, a⟩, rfl, rfl⟩
  · exact absurd h nofun

theorem splitFraction_pointText (hf : ∀ c ∈ f.getD [], isDigit c) :
    Decimal.splitFraction (pointText f ++ exponentText e) = (f.getD [], exponentText e) := by
  obtain ⟨hdigit, hpoint⟩ := begins_exponentText e
  cases f with
  | none =>
      change Decimal.splitFraction (exponentText e) = ([], exponentText e)
      unfold Decimal.splitFraction
      split
      · next u heq => exact absurd heq (hpoint u)
      · rfl
  | some f =>
      change Decimal.splitFraction ('.' :: (f ++ exponentText e)) = (f, exponentText e)
      have hf : ∀ c ∈ f, isDigit c := hf
      rw [Decimal.splitFraction, Text.takeWhile_stretch hf hdigit,
        Text.dropWhile_stretch hf hdigit]

theorem exists_pointText (t : Text) :
    ∃ f, pointText f ++ (Decimal.splitFraction t).2 = t ∧
      f.getD [] = (Decimal.splitFraction t).1 := by
  unfold Decimal.splitFraction
  split
  · next u => exact ⟨some (u.takeWhile isDigit), by simp [pointText], rfl⟩
  · exact ⟨none, rfl, rfl⟩

end Parts

theorem splitFraction_digit (t : Text) : ∀ c ∈ (Decimal.splitFraction t).1, isDigit c := by
  unfold Decimal.splitFraction
  split
  · next u =>
      intro c hc
      exact List.mem_takeWhile_imp hc
  · nofun

/-- Behind its sign a decimal numeral begins with a digit or a point. -/
theorem head?_unsigned (a : DecimalNumeral) {c : Char} (hdigit : isDigit c = false)
    (hpoint : c ≠ '.') :
    (a.whole ++ (pointText a.fraction ++ exponentText a.exponent)).head? ≠ some c := by
  intro h
  cases hw : a.whole with
  | cons d w =>
      rw [hw, List.cons_append, List.head?_cons, Option.some.injEq] at h
      have := a.whole_digit d (by rw [hw]; exact List.mem_cons_self)
      rw [h, hdigit] at this
      exact Bool.noConfusion this
  | nil =>
      cases hf : a.fraction with
      | none => exact a.ne ⟨hw, by rw [hf]; rfl⟩
      | some f =>
          rw [hw, hf] at h
          exact hpoint (Option.some.inj h).symm

theorem splitSign_text (a : DecimalNumeral) :
    splitSign a.text =
      (a.sign.negative, a.whole ++ (pointText a.fraction ++ exponentText a.exponent)) :=
  Sign.splitSign_append a.sign (a.head?_unsigned (by decide) (by decide))
    (a.head?_unsigned (by decide) (by decide))

theorem ofNumeral?_eq (t : Text) :
    Decimal.ofNumeral? t =
      let whole := (splitSign t).2.takeWhile isDigit
      let split := Decimal.splitFraction ((splitSign t).2.dropWhile isDigit)
      if whole = [] ∧ split.1 = [] then none
      else (Decimal.exponentPart? split.2).map fun e =>
        ⟨(splitSign t).1, ofDigits (whole ++ split.1), e - split.1.length⟩ := rfl

theorem read_text (a : DecimalNumeral) : Decimal.ofNumeral? a.text = some a.decimal := by
  have hbegins := begins_pointText a.fraction a.exponent
  simp only [ofNumeral?_eq, splitSign_text, Text.takeWhile_stretch a.whole_digit hbegins,
    Text.dropWhile_stretch a.whole_digit hbegins, splitFraction_pointText a.fraction_digit]
  rw [if_neg a.ne, exponentPart?_exponentText, Option.map_some, ofDigits_eq_naturalValue]
  rfl

/-- What the reader takes is a decimal numeral, and all of them. -/
theorem read_eq_some_iff {t : Text} {d : Decimal} :
    Decimal.ofNumeral? t = some d ↔ ∃ a : DecimalNumeral, a.text = t ∧ a.decimal = d := by
  constructor
  · intro h
    -- The parts are what the reader has cut the text into, and put together they are the text.
    obtain ⟨s, hs, hnegative⟩ := Sign.exists_text_append t
    rw [ofNumeral?_eq] at h
    obtain ⟨ne, hmap⟩ := Option.ite_none_left_eq_some.1 h
    obtain ⟨n, hn, hd⟩ := Option.map_eq_some_iff.1 hmap
    obtain ⟨f, hf, hplaces⟩ := exists_pointText ((splitSign t).2.dropWhile isDigit)
    obtain ⟨e, he, hexponent⟩ := exists_exponentText hn
    refine ⟨⟨s, (splitSign t).2.takeWhile isDigit, f, e, fun c hc => List.mem_takeWhile_imp hc,
      ?_, ?_⟩, ?_, ?_⟩
    · rw [hplaces]
      exact splitFraction_digit _
    · rw [hplaces]
      exact ne
    · rw [text, he, hf, List.takeWhile_append_dropWhile, hs]
    · rw [← hd]
      simp only [decimal, places, hplaces, hnegative, hexponent, ofDigits_eq_naturalValue]
  · rintro ⟨a, rfl, rfl⟩
    exact read_text a

end DecimalNumeral

/-! ## Numerals without a sign -/

theorem integerNumeral?_digits {t : Text} (ne : t ≠ []) (digit : ∀ c ∈ t, isDigit c) :
    integerNumeral? t = some (naturalValue t : Int) :=
  IntegerNumeral.read_text ⟨.none, t, ne, digit⟩

section Point

variable {w f : Text} (whole : ∀ c ∈ w, isDigit c) (ne : f ≠ [])
  (fraction : ∀ c ∈ f, isDigit c)

def DecimalNumeral.ofPoint : DecimalNumeral :=
  ⟨.none, w, some f, none, whole, fraction, fun h => ne h.2⟩

theorem DecimalNumeral.text_ofPoint : (ofPoint whole ne fraction).text = w ++ '.' :: f := by
  simp [ofPoint, text, Sign.text, pointText, exponentText]

include whole ne fraction in
theorem Decimal.exists_ofNumeral?_point :
    ∃ d, ofNumeral? (w ++ '.' :: f) = some d ∧ d.negative = false ∧
      d.magnitude = rationalValue (w ++ '.' :: f) := by
  let a := DecimalNumeral.ofPoint whole ne fraction
  have hread : ofNumeral? (w ++ '.' :: f) = some a.decimal := by
    rw [← DecimalNumeral.text_ofPoint whole ne fraction]
    exact a.read_text
  have hvalue : a.decimal.magnitude =
      (naturalValue w + naturalValue f / 10 ^ f.length) * 10 ^ (0 : ℤ) := a.value_eq.symm
  refine ⟨a.decimal, hread, rfl, ?_⟩
  rw [hvalue, zpow_zero, mul_one, rationalValue_point whole]

end Point

end LosslessScanner
