import LosslessScanner.Number.Numeral
import LosslessScanner.Pattern.Escape
import LosslessScanner.Proofs.Rules
import LosslessScanner.Text.Quoted

/-!
# Digits read back

Numbers are written by the core library's `Nat.toDigits`, in decimal where they
are counts and offsets, and in hexadecimal where they are the code of a
character. What is written is digits only, it is never empty, and reading it
gives the number again. Decimal digits have no zero in front, which is what
tells them from other numerals of the same value.
-/

namespace LosslessScanner.Text

/-! ## Decimal -/

theorem ofNat_ne_nil (n : Nat) : ofNat n ≠ [] := Nat.toDigits_ne_nil

theorem isDigit_of_mem_ofNat {n : Nat} : ∀ c ∈ ofNat n, isDigit c := by
  intro c hc
  exact Nat.isDigit_of_mem_toDigits (by decide) (by decide) hc

theorem not_mem_ofNat {c : Char} (h : isDigit c = false) (n : Nat) : c ∉ ofNat n := by
  intro hc
  exact absurd (isDigit_of_mem_ofNat c hc) (Bool.eq_false_iff.1 h)

theorem ofDigits_ofNat (n : Nat) : ofDigits (ofNat n) = n := by
  have h : Nat.ofDigitChars 10 (ofNat n) 0 = n := Nat.ofDigitChars_ten_toDigits
  rwa [Nat.ofDigitChars_eq_foldl] at h

/-- Only zero is written with a zero in front. -/
theorem head?_ofNat_ne {n : Nat} (hn : 0 < n) : (ofNat n).head? ≠ some '0' := by
  rw [ofNat]
  induction n using Nat.base_induction 10 (by decide) with
  | single m hm =>
      rw [Nat.toDigits_of_lt_base hm, List.head?_cons, ne_eq, Option.some.injEq,
        Nat.digitChar_eq_zero]
      exact Nat.ne_of_gt hn
  | digit m k hk hm ih =>
      rw [← Nat.toDigits_append_toDigits (by decide) hm hk]
      obtain ⟨c, w, hc⟩ := List.exists_cons_of_ne_nil (Nat.toDigits_ne_nil (n := m) (b := 10))
      rw [hc] at ih ⊢
      exact ih hm

/-- Digits have no sign. -/
theorem splitSign_of_digits {t : Text} (h : ∀ c ∈ t, isDigit c) :
    splitSign t = (false, t) ∧ t.head? ≠ some '+' := by
  match t with
  | [] => exact ⟨rfl, nofun⟩
  | c :: w =>
      have hdigit : isDigit c := h c List.mem_cons_self
      have hminus : c ≠ '-' := by rintro rfl; exact absurd hdigit (by decide)
      have hplus : c ≠ '+' := by rintro rfl; exact absurd hdigit (by decide)
      exact ⟨by simp [splitSign, hminus, hplus], by simpa using hplus⟩

section Behind

variable {n : Nat} {r : Text} (h : r.begins isDigit = false)

include h

theorem takeWhile_ofNat_append : (ofNat n ++ r).takeWhile isDigit = ofNat n :=
  takeWhile_stretch isDigit_of_mem_ofNat h

theorem dropWhile_ofNat_append : (ofNat n ++ r).dropWhile isDigit = r :=
  dropWhile_stretch isDigit_of_mem_ofNat h

end Behind

/-! ## Hexadecimal -/

/-- The number that hexadecimal digits denote. -/
def ofHex (t : Text) : Nat := t.foldl (fun n c => 16 * n + Pattern.hexDigit c) 0

theorem hexDigit_digitChar :
    ∀ d < 16, Pattern.isHexDigit (Nat.digitChar d) ∧ Pattern.hexDigit (Nat.digitChar d) = d := by
  decide

theorem hex_read (n : Nat) : (∀ c ∈ hex n, Pattern.isHexDigit c) ∧ ofHex (hex n) = n := by
  rw [hex]
  induction n using Nat.base_induction 16 (by decide) with
  | single m hm =>
      obtain ⟨hdigit, hvalue⟩ := hexDigit_digitChar m hm
      rw [Nat.toDigits_of_lt_base hm]
      refine ⟨fun c hc => ?_, ?_⟩
      · rwa [List.mem_singleton.1 hc]
      · simp [ofHex, hvalue]
  | digit m k hk hm ih =>
      obtain ⟨hdigit, hvalue⟩ := hexDigit_digitChar k hk
      rw [← Nat.toDigits_append_toDigits (by decide) hm hk, Nat.toDigits_of_lt_base hk]
      refine ⟨fun c hc => ?_, ?_⟩
      · rcases List.mem_append.1 hc with hc | hc
        · exact ih.1 c hc
        · rwa [List.mem_singleton.1 hc]
      · have hread := ih.2
        rw [ofHex] at hread ⊢
        rw [List.foldl_append, hread]
        simp [hvalue]

end LosslessScanner.Text
