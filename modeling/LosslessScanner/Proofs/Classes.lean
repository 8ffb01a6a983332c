import LosslessScanner.Text.CharClass

/-!
# The classes of characters are apart

The rules of the scanner are tried in an order, and the order would matter if
a character could be in two classes. It cannot, with one exception that is
there on purpose: some controls are blanks. Everything else is disjoint, and
this file says so pair by pair.

Letters are the only class that needs a table, so they are the only class with
anything to prove about it. Two looks at the table are enough: it has nothing
below U+00AA, where the letters are those of ASCII, and it has none of the
seventeen blanks above. All other classes are ranges of code points, and once
they are spelled out the comparisons are arithmetic.
-/

namespace LosslessScanner

/-! ## Codes

Each class as a condition on the code point, which is the form that `omega`
decides. -/

theorem char_eq_iff {c d : Char} : c = d ↔ c.toNat = d.toNat :=
  Char.toNat_inj.symm

theorem isAlpha_iff {c : Char} :
    c.isAlpha ↔ (65 ≤ c.toNat ∧ c.toNat ≤ 90) ∨ (97 ≤ c.toNat ∧ c.toNat ≤ 122) := by
  delta Char.isAlpha Char.isUpper Char.isLower
  simp [UInt32.le_iff_toNat_le]

theorem isDigit_iff {c : Char} : isDigit c ↔ 48 ≤ c.toNat ∧ c.toNat ≤ 57 := by
  simp [isDigit, Char.isDigit, UInt32.le_iff_toNat_le]

theorem isControl_iff {c : Char} :
    isControl c ↔ c.toNat < 32 ∨ (127 ≤ c.toNat ∧ c.toNat < 160) := by
  simp [isControl]

theorem isDelimiter_iff {c : Char} :
    isDelimiter c ↔ c.toNat = 40 ∨ c.toNat = 41 ∨ c.toNat = 44 ∨ c.toNat = 59 := by
  simp [isDelimiter, char_eq_iff, or_assoc]

/-- The blanks beyond U+00A0, each with its code. -/
def wideBlanks : List Nat :=
  [0x1680, 0x2000, 0x2001, 0x2002, 0x2003, 0x2004, 0x2005, 0x2006, 0x2007, 0x2008,
    0x2009, 0x200a, 0x2028, 0x2029, 0x202f, 0x205f, 0x3000]

theorem isBlank_iff {c : Char} :
    isBlank c ↔ ((9 ≤ c.toNat ∧ c.toNat ≤ 13) ∨ c.toNat = 32 ∨ c.toNat = 133 ∨
      c.toNat = 160) ∨ c.toNat ∈ wideBlanks := by
  simp only [isBlank, wideBlanks, Bool.or_eq_true, Bool.and_eq_true, decide_eq_true_eq,
    beq_iff_eq, List.mem_cons, List.not_mem_nil, or_false]
  omega

theorem wideBlanks_high : ∀ n ∈ wideBlanks, 0x1680 ≤ n := by decide

/-! ## Letters -/

/-- The table of letters begins at U+00AA. -/
theorem rank_alphabetic_low : ∀ n < 0xaa, Text.alphabetic.rank n = 0 := by
  decide +kernel

theorem rank_alphabetic_wideBlanks :
    ∀ n ∈ wideBlanks, Text.alphabetic.rank n % 2 = 0 := by
  decide +kernel

/-- Below U+00AA a letter is one of ASCII; above, it is at least no blank. -/
theorem isLetter_code {c : Char} (h : isLetter c) :
    c.isAlpha ∨ (0xaa ≤ c.toNat ∧ c.toNat ∉ wideBlanks) := by
  rcases Bool.or_eq_true_iff.1 h with h | h
  · exact Or.inl h
  · have hodd : Text.alphabetic.rank c.toNat % 2 = 1 := by
      simpa [CodePointSet.contains] using h
    refine Or.inr ⟨Nat.le_of_not_lt fun hlow => ?_, fun hmem => ?_⟩
    · rw [rank_alphabetic_low c.toNat hlow] at hodd
      omega
    · have := rank_alphabetic_wideBlanks c.toNat hmem
      omega

/-- What is not in ASCII's alphabet and lies where the table has nothing is no letter. -/
theorem not_letter_of_code {c : Char} (halpha : ¬ c.isAlpha)
    (hcode : c.toNat < 0xaa ∨ c.toNat ∈ wideBlanks) : isLetter c = false := by
  refine Bool.eq_false_iff.2 fun hl => ?_
  rcases isLetter_code hl with ha | ⟨hlow, hwide⟩
  · exact halpha ha
  · rcases hcode with h | h
    · omega
    · exact hwide h

theorem not_letter_of_blank {c : Char} (h : isBlank c) : isLetter c = false := by
  rcases isBlank_iff.1 h with hlow | hwide
  · exact not_letter_of_code (by rw [isAlpha_iff]; omega) (by omega)
  · have := wideBlanks_high c.toNat hwide
    exact not_letter_of_code (by rw [isAlpha_iff]; omega) (Or.inr hwide)

theorem not_letter_of_digit {c : Char} (h : isDigit c) : isLetter c = false := by
  rw [isDigit_iff] at h
  exact not_letter_of_code (by rw [isAlpha_iff]; omega) (by omega)

theorem not_letter_of_control {c : Char} (h : isControl c) : isLetter c = false := by
  rw [isControl_iff] at h
  exact not_letter_of_code (by rw [isAlpha_iff]; omega) (by omega)

theorem not_letter_of_delimiter {c : Char} (h : isDelimiter c) : isLetter c = false := by
  rw [isDelimiter_iff] at h
  exact not_letter_of_code (by rw [isAlpha_iff]; omega) (by omega)

theorem not_blank_of_letter {c : Char} (h : isLetter c) : isBlank c = false := by
  refine Bool.eq_false_iff.2 fun hb => ?_
  rw [not_letter_of_blank hb] at h
  exact Bool.noConfusion h

/-! ## The other pairs -/

theorem blank_of_lineEnd {c : Char} (h : isLineEnd c) : isBlank c := by
  rw [isLineEnd, Bool.or_eq_true, beq_iff_eq, beq_iff_eq] at h
  rcases h with rfl | rfl
  · rfl
  · rfl

theorem not_blank_of_digit {c : Char} (h : isDigit c) : isBlank c = false := by
  rw [isDigit_iff] at h
  refine Bool.eq_false_iff.2 fun hb => ?_
  rcases isBlank_iff.1 hb with hlow | hwide
  · omega
  · have := wideBlanks_high c.toNat hwide
    omega

theorem not_blank_of_delimiter {c : Char} (h : isDelimiter c) : isBlank c = false := by
  rw [isDelimiter_iff] at h
  refine Bool.eq_false_iff.2 fun hb => ?_
  rcases isBlank_iff.1 hb with hlow | hwide
  · omega
  · have := wideBlanks_high c.toNat hwide
    omega

theorem ne_point_of_digit {c : Char} (h : isDigit c) : c ≠ '.' := by
  rintro rfl
  exact absurd h (by decide)

theorem not_digit_of_delimiter {c : Char} (h : isDelimiter c) : isDigit c = false := by
  rw [isDelimiter_iff] at h
  exact Bool.eq_false_iff.2 fun hd => by rw [isDigit_iff] at hd; omega

theorem not_digit_of_control {c : Char} (h : isControl c) : isDigit c = false := by
  rw [isControl_iff] at h
  exact Bool.eq_false_iff.2 fun hd => by rw [isDigit_iff] at hd; omega

theorem not_delimiter_of_control {c : Char} (h : isControl c) : isDelimiter c = false := by
  rw [isControl_iff] at h
  exact Bool.eq_false_iff.2 fun hd => by rw [isDelimiter_iff] at hd; omega

/-! ## Symbols

Symbols are what is left, so they are apart from everything by definition. The
three that have a meaning of their own are symbols like the others. -/

theorem isSymbol_iff {c : Char} :
    isSymbol c ↔ isLetter c = false ∧ isDigit c = false ∧ isBlank c = false ∧
      isControl c = false ∧ isDelimiter c = false := by
  simp [isSymbol, and_assoc]

theorem isSymbol_hash : isSymbol '#' = true := by decide +kernel

theorem isSymbol_point : isSymbol '.' = true := by decide +kernel

theorem isSymbol_equals : isSymbol '=' = true := by decide +kernel

theorem isStray_iff {c : Char} : isStray c ↔ isControl c ∧ isBlank c = false := by
  simp [isStray]

/-- No character is left over. -/
theorem class_cases (c : Char) :
    isBlank c ∨ isLetter c ∨ isDigit c ∨ isDelimiter c ∨ isSymbol c ∨ isStray c := by
  simp only [isSymbol, isStray]
  cases isBlank c <;> cases isLetter c <;> cases isDigit c <;> cases isDelimiter c <;>
    cases isControl c <;> simp

end LosslessScanner
