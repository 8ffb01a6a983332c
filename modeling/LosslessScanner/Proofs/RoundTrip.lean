import LosslessScanner.Proofs.FloatConversion
import LosslessScanner.Proofs.IntegerConversion
import LosslessScanner.Proofs.Number.Written

/-!
# Values read back from their text

A value that is written for people or as JSON is read back as the same value, to
the last bit. The two styles differ in where they change to scientific form, in
the sign of an exponent, and in which of two decimals they take on a tie, but what
each writes is a numeral that is rounded to the value.

So no two values have a text in common. That goes for an integer and a double as
well: a double always shows a point or an exponent, and an integer never does.
-/

namespace LosslessScanner

namespace Literal

/-- The kind of the tokens that have such a value. -/
def kind : Literal → Kind
  | int32 _ => .integer
  | float64 _ => .float64

/-- The number inside a JSON object with one field: what stands between the colon and the closing
brace. -/
def numberIn (t : Text) : Text := (t.dropWhile (· ≠ ':')).tail.dropLast

theorem numberIn_json (v : Literal) : numberIn v.json = v.jsonNumber := by
  have hjson : v.json =
      (['\x7b'] ++ Text.jsonString v.typeName) ++ ':' :: (v.jsonNumber ++ ['\x7d']) := by
    rw [json, List.append_assoc _ v.jsonNumber, List.append_assoc _ [':']]
    rfl
  have hname : ∀ c ∈ ['\x7b'] ++ Text.jsonString v.typeName, decide (c ≠ ':') = true := by
    cases v with
    | int32 n => exact List.all_eq_true.1 rfl
    | float64 x => exact List.all_eq_true.1 rfl
  rw [numberIn, hjson, List.dropWhile_append_of_pos hname, List.dropWhile_cons_of_neg (by decide),
    List.tail_cons, List.dropLast_concat]

end Literal

/-! ## Tokens of a value -/

theorem map_eq_ok_iff {ε α β : Type} {f : α → β} {x : Except ε α} {b : β} :
    x.map f = .ok b ↔ ∃ a, x = .ok a ∧ f a = b := by
  cases x with
  | error e =>
      refine iff_of_false nofun ?_
      rintro ⟨a, hx, -⟩
      exact absurd hx nofun
  | ok a =>
      constructor
      · intro h
        exact ⟨a, rfl, Except.ok.inj h⟩
      · rintro ⟨a', hx, rfl⟩
        rw [Except.ok.inj hx]
        rfl

namespace Token

theorem literal?_integer (t : Text) :
    (Token.mk .integer t).literal? = (Token.mk .integer t).int32?.map .int32 := rfl

theorem literal?_float64 (t : Text) :
    (Token.mk .float64 t).literal? = (Token.mk .float64 t).float64?.map .float64 := rfl

theorem literal?_integer_eq_ok {t : Text} {n : Int32} :
    (Token.mk .integer t).literal? = .ok (.int32 n) ↔
      ∃ a : IntegerNumeral, a.text = t ∧ a.value = n.toInt := by
  rw [← int32?_eq_ok_iff, literal?_integer, map_eq_ok_iff]
  simp only [Literal.int32.injEq, exists_eq_right]

theorem literal?_float64_eq_ok {t : Text} {x : Binary64} :
    (Token.mk .float64 t).literal? = .ok (.float64 x) ↔
      ∃ a : DecimalNumeral, a.text = t ∧ Binary64.ofDecimal? a.decimal = some x := by
  rw [← float64?_eq_ok_iff, literal?_float64, map_eq_ok_iff]
  simp only [Literal.float64.injEq, exists_eq_right]

/-- A token has a value of its kind only. -/
theorem kind_eq_of_literal? {t : Token} {v : Literal} (h : t.literal? = .ok v) :
    t.kind = v.kind := by
  obtain ⟨k, t⟩ := t
  have absurd_of {e : LexicalError} (herror : (Token.mk k t).literal? = .error e) {p : Prop} : p :=
    absurd (herror.symm.trans h) nofun
  cases k with
  | integer =>
      obtain ⟨n, -, rfl⟩ := map_eq_ok_iff.1 h
      rfl
  | float64 =>
      obtain ⟨x, -, rfl⟩ := map_eq_ok_iff.1 h
      rfl
  | _ => exact absurd_of rfl

end Token

/-! ## Texts of a value -/

theorem IntegerNumeral.mem_text (a : IntegerNumeral) :
    ∀ c ∈ a.text, isDigit c ∨ c = '+' ∨ c = '-' := by
  intro c hc
  rcases List.mem_append.1 hc with hc | hc
  · cases hs : a.sign with
    | none =>
        rw [hs] at hc
        exact absurd hc List.not_mem_nil
    | plus =>
        rw [hs] at hc
        exact Or.inr (Or.inl (List.mem_singleton.1 hc))
    | minus =>
        rw [hs] at hc
        exact Or.inr (Or.inr (List.mem_singleton.1 hc))
  · exact Or.inl (a.digit c hc)

theorem DecimalNumeral.exists_mark (a : DecimalNumeral)
    (mark : a.fraction.isSome ∨ a.exponent.isSome) :
    ∃ c ∈ a.text, c = '.' ∨ c = 'e' ∨ c = 'E' := by
  rw [text]
  rcases mark with hsome | hsome
  · obtain ⟨f, hf⟩ := Option.isSome_iff_exists.1 hsome
    rw [hf]
    exact ⟨'.', by simp [pointText], Or.inl rfl⟩
  · obtain ⟨e, he⟩ := Option.isSome_iff_exists.1 hsome
    rw [he, exponentText]
    refine ⟨if e.capital then 'E' else 'e', by simp, ?_⟩
    split
    · exact Or.inr (Or.inr rfl)
    · exact Or.inr (Or.inl rfl)

namespace Literal

/-- A text that is read as a value, with the marks of its kind: a double has a point or an
exponent. -/
inductive Denotes : Text → Literal → Prop where
  | int32 {n : Int32} (a : IntegerNumeral) (value : a.value = n.toInt) : Denotes a.text (int32 n)
  | float64 {x : Binary64} (a : DecimalNumeral) (mark : a.fraction.isSome ∨ a.exponent.isSome)
      (value : Binary64.ofDecimal? a.decimal = some x) : Denotes a.text (float64 x)

theorem denotes_display (v : Literal) : Denotes v.display v := by
  cases v with
  | int32 n =>
      obtain ⟨a, htext, hvalue⟩ := exists_writeInt n.toInt
      rw [display, ← htext]
      exact .int32 a hvalue
  | float64 x =>
      obtain ⟨a, htext, hmark, hvalue⟩ := displayStyle.exists_write x
      rw [display, ← htext]
      exact .float64 a hmark hvalue

theorem denotes_jsonNumber (v : Literal) : Denotes v.jsonNumber v := by
  cases v with
  | int32 n =>
      obtain ⟨a, htext, hvalue⟩ := exists_writeInt n.toInt
      rw [jsonNumber, ← htext]
      exact .int32 a hvalue
  | float64 x =>
      obtain ⟨a, htext, hmark, hvalue⟩ := jsonStyle.exists_write x
      rw [jsonNumber, ← htext]
      exact .float64 a hmark hvalue

/-- A point or an exponent has a character that no integer has. -/
theorem text_integer_ne (a : IntegerNumeral) {b : DecimalNumeral}
    (mark : b.fraction.isSome ∨ b.exponent.isSome) : a.text ≠ b.text := by
  intro htext
  obtain ⟨c, hc, hcases⟩ := b.exists_mark mark
  rw [← htext] at hc
  rcases hcases with rfl | rfl | rfl
  · exact absurd (a.mem_text _ hc) (by decide)
  · exact absurd (a.mem_text _ hc) (by decide)
  · exact absurd (a.mem_text _ hc) (by decide)

namespace Denotes

variable {t : Text} {v w : Literal}

theorem literal? (h : Denotes t v) : (Token.mk v.kind t).literal? = .ok v := by
  cases h with
  | int32 a value => exact Token.literal?_integer_eq_ok.2 ⟨a, rfl, value⟩
  | float64 a mark value => exact Token.literal?_float64_eq_ok.2 ⟨a, rfl, value⟩

/-- A text is read as one value only. -/
theorem unique (hv : Denotes t v) (hw : Denotes t w) : v = w := by
  have hkind : v.kind = w.kind := by
    cases hv with
    | int32 a value =>
        generalize ht : a.text = u at hw
        cases hw with
        | int32 b _ => rfl
        | float64 b mark _ => exact absurd ht (text_integer_ne a mark)
    | float64 a mark value =>
        generalize ht : a.text = u at hw
        cases hw with
        | int32 b _ => exact absurd ht.symm (text_integer_ne b mark)
        | float64 b _ _ => rfl
  have hread := hv.literal?
  rw [hkind, hw.literal?] at hread
  exact (Except.ok.inj hread).symm

end Denotes

end Literal

/-- The text of a value, for people or inside its JSON form, is the contents of a token of the same
kind with the same value, and no other value has one of these texts. -/
theorem Token.value_readBack {t : Token} {v : Literal} (h : t.literal? = .ok v) :
    (Token.mk t.kind v.display).literal? = .ok v ∧
      (Token.mk t.kind (Literal.numberIn v.json)).literal? = .ok v ∧
      ∀ w : Literal, w.display = v.display ∨ w.json = v.json ∨
        w.display = Literal.numberIn v.json → w = v := by
  have hkind := kind_eq_of_literal? h
  rw [hkind, Literal.numberIn_json]
  refine ⟨v.denotes_display.literal?, v.denotes_jsonNumber.literal?, ?_⟩
  rintro w (hdisplay | hjson | hmixed)
  · have hw := w.denotes_display
    rw [hdisplay] at hw
    exact hw.unique v.denotes_display
  · have hw := w.denotes_jsonNumber
    rw [← Literal.numberIn_json, hjson, Literal.numberIn_json] at hw
    exact hw.unique v.denotes_jsonNumber
  · have hw := w.denotes_display
    rw [hmixed] at hw
    exact hw.unique v.denotes_jsonNumber

/-- The least double with a sign, from a text that is not the one it is written as. -/
theorem Token.value_readBack_least :
    (Token.mk .float64 "-4.95e-324".toList).literal? = .ok (.float64 ⟨true, 1, by decide⟩) ∧
      (Literal.float64 ⟨true, 1, by decide⟩).display = "-5e-324".toList ∧
      (Token.mk .float64 (Literal.float64 ⟨true, 1, by decide⟩).display).literal? =
        .ok (.float64 ⟨true, 1, by decide⟩) ∧
      (Token.mk .float64 (Literal.numberIn (Literal.float64 ⟨true, 1, by decide⟩).json)).literal? =
        .ok (.float64 ⟨true, 1, by decide⟩) := by
  have hread : (Token.mk .float64 "-4.95e-324".toList).literal? =
      .ok (.float64 ⟨true, 1, by decide⟩) := by decide +kernel
  exact ⟨hread, by decide +kernel, (value_readBack hread).1, (value_readBack hread).2.1⟩

end LosslessScanner
