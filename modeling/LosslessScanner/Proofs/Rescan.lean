import LosslessScanner.Proofs.Blanks
import LosslessScanner.Proofs.Number.Notation
import LosslessScanner.Proofs.RoundTrip

/-!
# Values that can be written back into a source

The text of a value is always a numeral, but a scanner knows fewer numerals than a
reader: it has no signs and no exponents. A value that came out of a source has no
sign. It has an exponent in its text if it is very large or very small, and such a
text falls apart at the letter: what begins with a digit is a token for a number,
and no number has a letter in it.
-/

namespace LosslessScanner

/-- A value whose text is a literal of the language. -/
def Literal.Rewritable : Literal → Prop
  | .int32 _ => True
  | .float64 x => x.value = 0 ∨ 1 / 10 ^ 4 ≤ x.value ∧ x.value < 10 ^ 16

/-! ## Texts with a letter -/

/-- What begins with a digit begins with a number. -/
theorem Token.kind_first_of_digit {c : Char} (h : isDigit c) (rest : Text) :
    (Token.first c rest).kind = .integer ∨ (Token.first c rest).kind = .float64 := by
  have hhash : c ≠ '#' := by
    rintro rfl
    exact absurd h (by decide)
  have hnumber : Lexeme.first c rest = Lexeme.number rest := by
    rw [Lexeme.first, if_neg (by rw [not_blank_of_digit h]; exact Bool.noConfusion), if_neg hhash,
      if_neg (by rw [not_letter_of_digit h]; exact Bool.noConfusion), if_pos h]
  have hkind : (Token.first c rest).kind =
      (Lexeme.number rest).form.kind (c :: rest.take (Lexeme.number rest).more) := by
    rw [← hnumber]
    rfl
  rw [hkind]
  by_cases hf : Lexeme.fraction (rest.drop (Text.run isDigit rest)) = 0
  · rw [Lexeme.number_eq_integer hf]
    exact Or.inl rfl
  · rw [Lexeme.number_eq_float hf]
    exact Or.inr rfl

theorem Token.WellFormed.not_mem_letter {t : Token} (h : t.WellFormed)
    (hk : t.kind = .integer ∨ t.kind = .float64) : 'e' ∉ t.contents := by
  intro hmem
  rcases hk with hk | hk
  · exact absurd ((h.digits hk).2 'e' hmem) (by decide)
  · obtain ⟨w, f, hcontents, whole, -, fraction⟩ := h.decimal hk
    rw [hcontents] at hmem
    rcases List.mem_append.1 hmem with hw | hf
    · exact absurd (whole 'e' hw) (by decide)
    · rcases List.mem_cons.1 hf with hpoint | hf
      · exact absurd hpoint (by decide)
      · exact absurd (fraction 'e' hf) (by decide)

/-- A text that begins with a digit and has a letter in it is no single token. -/
theorem two_le_length_scan {t : Text} (hdigit : t.begins isDigit = true) (hletter : 'e' ∈ t) :
    2 ≤ (scan t).length := by
  cases t with
  | nil => exact absurd hdigit (by decide)
  | cons c rest =>
      have hkind := Token.kind_first_of_digit hdigit rest
      have htext := text_scan (c :: rest)
      have hfirst : Token.first c rest ∈ scan (c :: rest) := by
        rw [scan_cons]
        exact List.mem_cons_self
      have hwf := wellFormed_of_mem_scan hfirst
      rw [scan_cons] at htext ⊢
      cases hmore : scan (rest.drop (Lexeme.first c rest).more) with
      | cons u us => exact Nat.le_add_left 2 us.length
      | nil =>
          rw [hmore, Token.text_cons, Token.text_nil, List.append_nil] at htext
          rw [← htext] at hletter
          exact absurd hletter (hwf.not_mem_letter hkind)

/-! ## Values out of a source -/

namespace Token

variable {t : Token}

theorem WellFormed.nonneg_of_int32 (h : t.WellFormed) {n : Int32}
    (hv : t.literal? = .ok (.int32 n)) : 0 ≤ n.toInt := by
  obtain ⟨k, contents⟩ := t
  obtain rfl : k = .integer := kind_eq_of_literal? hv
  obtain ⟨ne, digit⟩ := h.digits rfl
  obtain ⟨a, rfl, hvalue⟩ := literal?_integer_eq_ok.1 hv
  have hread := integerNumeral?_digits ne digit
  rw [a.read_text, hvalue, Option.some.injEq] at hread
  rw [hread]
  exact Int.natCast_nonneg _

theorem WellFormed.not_negative_of_float64 (h : t.WellFormed) {x : Binary64}
    (hv : t.literal? = .ok (.float64 x)) : x.negative = false := by
  obtain ⟨k, contents⟩ := t
  obtain rfl : k = .float64 := kind_eq_of_literal? hv
  obtain ⟨w, f, hcontents, whole, ne, fraction⟩ := h.decimal rfl
  obtain ⟨a, htext, hvalue⟩ := literal?_float64_eq_ok.1 hv
  obtain ⟨d, hd, hsign, -⟩ := Decimal.exists_ofNumeral?_point whole ne fraction
  have hread := a.read_text
  rw [htext, show contents = w ++ '.' :: f from hcontents, hd, Option.some.injEq] at hread
  have hnegative := (Binary64.ofDecimal?_eq_some_iff.1 hvalue).1
  rw [hnegative, ← hread, hsign]

end Token

/-! ## Texts that are one token -/

theorem scan_writeInt {n : ℤ} (h : 0 ≤ n) :
    scan (Literal.writeInt n) = [⟨.integer, Literal.writeInt n⟩] := by
  have htext : Literal.writeInt n = Text.ofNat n.natAbs := by
    rw [Literal.writeInt, if_neg (Int.not_lt.2 h)]
    rfl
  rw [htext]
  exact scan_contents (.integer (Text.ofNat_ne_nil _) Text.isDigit_of_mem_ofNat)

theorem scan_point {w f : Text} (whole : ∀ c ∈ w, isDigit c) (ne : f ≠ [])
    (fraction : ∀ c ∈ f, isDigit c) :
    scan (w ++ '.' :: f) = [⟨.float64, w ++ '.' :: f⟩] :=
  scan_contents (.float whole ne fraction)

namespace FloatStyle

theorem scan_inPlace {ds : Text} (ne : ds ≠ []) (digit : ∀ c ∈ ds, isDigit c) (e : ℤ) :
    scan (inPlace ds e) = [⟨.float64, inPlace ds e⟩] := by
  obtain ⟨w, f, htext, -, hf, whole, fraction, -⟩ := exists_inPlace ne digit e
  rw [htext]
  exact scan_point whole hf fraction

theorem two_le_length_scan_scientific {ds : Text} (ne : ds ≠ []) (digit : ∀ c ∈ ds, isDigit c)
    (plus : Bool) (e : ℤ) : 2 ≤ (scan (scientific plus ds e)).length := by
  refine two_le_length_scan ?_ (by simp [scientific])
  obtain ⟨d, rest, rfl⟩ := List.exists_cons_of_ne_nil ne
  have hbegins : (scientific plus (d :: rest) e).begins isDigit = isDigit d := by
    cases rest with
    | nil => rfl
    | cons d' rest => rfl
  rw [hbegins]
  exact digit d List.mem_cons_self

end FloatStyle

example : scan "1e16".toList = [⟨.integer, ['1']⟩, ⟨.identifier, "e16".toList⟩] := by decide +kernel

/-- A double without a sign is shown as one token if it is zero or in the range of numbers that are
written in place, and as several otherwise. -/
theorem scan_display_float64 {x : Binary64} (hsign : x.negative = false) :
    ((Literal.float64 x).Rewritable →
      scan (Literal.float64 x).display = [⟨.float64, (Literal.float64 x).display⟩]) ∧
    (¬ (Literal.float64 x).Rewritable → 2 ≤ (scan (Literal.float64 x).display).length) := by
  have hvalue : x.value = Binary64.size x.magnitude := by
    rw [Binary64.value, hsign]
    rfl
  by_cases hzero : x.magnitude = 0
  · have hdisplay : (Literal.float64 x).display = ['0'] ++ '.' :: ['0'] := by
      rw [Literal.display, FloatStyle.write, hsign, if_pos hzero]
      rfl
    rw [hdisplay]
    refine ⟨fun _ => scan_point (by simp [isDigit]) (by simp) (by simp [isDigit]), fun h => ?_⟩
    exact absurd (Or.inl (Binary64.value_eq_zero_iff.2 hzero)) h
  · let d := Binary64.shortest .up x.magnitude
    have hrange : (Literal.float64 x).Rewritable ↔ -4 ≤ d.leading ∧ d.leading ≤ 15 := by
      rw [Binary64.display_inPlace_iff (Nat.pos_of_ne_zero hzero), Literal.Rewritable, ← hvalue,
        Binary64.value_eq_zero_iff]
      exact or_iff_right hzero
    have hdisplay : (Literal.float64 x).display =
        if -4 ≤ d.leading ∧ d.leading ≤ 15 then
          FloatStyle.inPlace (Text.ofNat d.significand) d.leading
        else FloatStyle.scientific false (Text.ofNat d.significand) d.leading := by
      rw [Literal.display, FloatStyle.write, hsign, if_neg hzero]
      rfl
    rw [hrange, hdisplay]
    refine ⟨fun h => ?_, fun h => ?_⟩
    · rw [if_pos h]
      exact FloatStyle.scan_inPlace (Text.ofNat_ne_nil _) Text.isDigit_of_mem_ofNat _
    · rw [if_neg h]
      exact FloatStyle.two_le_length_scan_scientific (Text.ofNat_ne_nil _)
        Text.isDigit_of_mem_ofNat _ _

/-- The text of a value is one token of the same kind with the same value if the value is an
integer, a zero, or a double from `0.0001` up to but not including `1e16`; otherwise it is several
tokens. -/
theorem Token.scan_display_iff {s : Text} {t : Token} {v : Literal} (ht : t ∈ scan s)
    (hv : t.literal? = .ok v) :
    ((∃ u, scan v.display = [u] ∧ u.kind = t.kind ∧ u.literal? = .ok v) ↔ v.Rewritable) ∧
      (¬ v.Rewritable → 2 ≤ (scan v.display).length) := by
  have hwf := wellFormed_of_mem_scan ht
  have hkind := kind_eq_of_literal? hv
  have hread := v.denotes_display.literal?
  have hcases : (v.Rewritable → scan v.display = [⟨v.kind, v.display⟩]) ∧
      (¬ v.Rewritable → 2 ≤ (scan v.display).length) := by
    cases v with
    | int32 n =>
        exact ⟨fun _ => scan_writeInt (hwf.nonneg_of_int32 hv), fun h => absurd trivial h⟩
    | float64 x => exact scan_display_float64 (hwf.not_negative_of_float64 hv)
  refine ⟨⟨?_, fun h => ⟨_, hcases.1 h, hkind.symm, hread⟩⟩, hcases.2⟩
  rintro ⟨u, hscan, -, -⟩
  by_contra h
  have hlength := hcases.2 h
  rw [hscan] at hlength
  exact absurd hlength (by simp)

/-- The least double that is written in place, in a source that writes it in another way. -/
theorem Token.scan_display_iff_tenThousandth :
    (⟨.float64, ".00010".toList⟩ : Token) ∈ scan "f(.00010)".toList ∧
      (⟨.float64, ".00010".toList⟩ : Token).literal? =
        .ok (.float64 ⟨false, Binary64.tenThousandth, by decide⟩) ∧
      ∃ u, scan (Literal.float64 ⟨false, Binary64.tenThousandth, by decide⟩).display = [u] ∧
        u.kind = .float64 ∧
        u.literal? = .ok (.float64 ⟨false, Binary64.tenThousandth, by decide⟩) := by
  have hmem : (⟨.float64, ".00010".toList⟩ : Token) ∈ scan "f(.00010)".toList := by decide +kernel
  have hread : (⟨.float64, ".00010".toList⟩ : Token).literal? =
      .ok (.float64 ⟨false, Binary64.tenThousandth, by decide⟩) := by decide +kernel
  have hrange : 1 / 10 ^ 4 ≤ Binary64.size Binary64.tenThousandth ∧
      Binary64.size Binary64.tenThousandth < 10 ^ 16 :=
    (Binary64.display_inPlace_iff (by decide)).1 (by decide +kernel)
  exact ⟨hmem, hread, (scan_display_iff hmem hread).1.2 (Or.inr hrange)⟩

end LosslessScanner
