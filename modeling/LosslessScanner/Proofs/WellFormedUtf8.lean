import Mathlib.Data.List.Forall2
import LosslessScanner.Text.Utf8

/-!
# Well-formed UTF-8

Which bytes a file may hold is said by the standard in a table, without a
decoder: a well-formed sequence is made of units, and each unit fits a row that
gives the range of every byte in it. Here the table stands next to the decoder
that the library uses, and `isSome_ofUtf8?_iff` says that they accept the same
bytes.

Both directions go through single characters. The encoding of a character fits
a row, and a unit that fits a row is the encoding of a character, namely of the
one whose code its payload bits spell.
-/

namespace LosslessScanner.Utf8

/-- The rows of the table, each with the first and the last value of every
byte. The rows whose second byte is cut short keep out encodings that are
longer than they need be, the surrogates, and what lies beyond the last code
point. -/
def rows : List (List (Nat × Nat)) :=
  [[(0x00, 0x7f)],
    [(0xc2, 0xdf), (0x80, 0xbf)],
    [(0xe0, 0xe0), (0xa0, 0xbf), (0x80, 0xbf)],
    [(0xe1, 0xec), (0x80, 0xbf), (0x80, 0xbf)],
    [(0xed, 0xed), (0x80, 0x9f), (0x80, 0xbf)],
    [(0xee, 0xef), (0x80, 0xbf), (0x80, 0xbf)],
    [(0xf0, 0xf0), (0x90, 0xbf), (0x80, 0xbf), (0x80, 0xbf)],
    [(0xf1, 0xf3), (0x80, 0xbf), (0x80, 0xbf), (0x80, 0xbf)],
    [(0xf4, 0xf4), (0x80, 0x8f), (0x80, 0xbf), (0x80, 0xbf)]]

def InRange (b : UInt8) (range : Nat × Nat) : Prop :=
  range.1 ≤ b.toNat ∧ b.toNat ≤ range.2

/-- Bytes that the table admits: units that fit rows, one after the other. -/
inductive WellFormed : List UInt8 → Prop where
  | nil : WellFormed []
  | unit {row : List (Nat × Nat)} {bytes rest : List UInt8} (mem : row ∈ rows)
      (fits : List.Forall₂ InRange bytes row) (more : WellFormed rest) :
      WellFormed (bytes ++ rest)

/-! ## One character -/

/-- The bytes of the character with the code `v`: the leading byte says how
many there are, and the others carry six bits each. -/
def encode (v : Nat) : List UInt8 :=
  if v ≤ 0x7f then [.ofNat v]
  else if v ≤ 0x7ff then [.ofNat (v / 64 % 32 + 192), .ofNat (v % 64 + 128)]
  else if v ≤ 0xffff then
    [.ofNat (v / 4096 % 16 + 224), .ofNat (v / 64 % 64 + 128), .ofNat (v % 64 + 128)]
  else
    [.ofNat (v / 262144 % 8 + 240), .ofNat (v / 4096 % 64 + 128),
      .ofNat (v / 64 % 64 + 128), .ofNat (v % 64 + 128)]

theorem utf8EncodeChar_eq_encode (c : Char) :
    String.utf8EncodeChar c = encode c.toNat := rfl

/-- A byte of ASCII is in the encoding of the character that it is the code of, and in no other. -/
theorem eq_of_mem_encode {v : Nat} {b : UInt8} (hb : b.toNat < 128) (h : b ∈ encode v) :
    v = b.toNat := by
  have high {n : Nat} (hn : 128 ≤ n ∧ n < 256) : b ≠ UInt8.ofNat n := by
    rintro rfl
    rw [UInt8.toNat_ofNat_of_lt' hn.2] at hb
    omega
  unfold encode at h
  split at h
  · next hv =>
      have hsize : v < 256 := by omega
      rw [List.mem_singleton.1 h, UInt8.toNat_ofNat_of_lt' hsize]
  split at h
  · simp only [List.mem_cons, List.not_mem_nil, or_false] at h
    rcases h with h | h <;> exact absurd h (high (by omega))
  split at h
  · simp only [List.mem_cons, List.not_mem_nil, or_false] at h
    rcases h with h | h | h <;> exact absurd h (high (by omega))
  · simp only [List.mem_cons, List.not_mem_nil, or_false] at h
    rcases h with h | h | h | h <;> exact absurd h (high (by omega))

theorem exists_char_of_isValidChar {v : Nat} (h : v.isValidChar) :
    ∃ c, String.utf8EncodeChar c = encode v :=
  ⟨Char.ofNatAux v h, rfl⟩

theorem inRange_ofNat {n lo hi : Nat} (h : lo ≤ n ∧ n ≤ hi) (hhi : hi < 256) :
    InRange (UInt8.ofNat n) (lo, hi) := by
  rw [InRange, UInt8.toNat_ofNat_of_lt' (Nat.lt_of_le_of_lt h.2 hhi)]
  exact h

theorem inRange_tail (n : Nat) : InRange (UInt8.ofNat (n % 64 + 128)) (0x80, 0xbf) :=
  inRange_ofNat (by omega) (by omega)

theorem ofNat_eq {n : Nat} {b : UInt8} (h : n = b.toNat) : UInt8.ofNat n = b := by
  rw [h, UInt8.ofNat_toNat]

/-- The encoding of a character fits a row. Its length and its first byte
settle which one. -/
theorem exists_row {v : Nat} (hv : v.isValidChar) :
    ∃ row ∈ rows, List.Forall₂ InRange (encode v) row := by
  have hvalid : v < 0xd800 ∨ (0xdfff < v ∧ v < 0x110000) := hv
  unfold encode
  split
  · next h1 =>
      exact ⟨[(0x00, 0x7f)], by simp [rows],
        .cons (inRange_ofNat (by omega) (by omega)) .nil⟩
  split
  · next h1 h2 =>
      exact ⟨[(0xc2, 0xdf), (0x80, 0xbf)], by simp [rows],
        .cons (inRange_ofNat (by omega) (by omega)) (.cons (inRange_tail v) .nil)⟩
  split
  · next h1 h2 h3 =>
      -- Four rows have three bytes. Only the first two ranges differ.
      have fits (lo hi lo' hi' : Nat) (mem : [(lo, hi), (lo', hi'), (0x80, 0xbf)] ∈ rows)
          (hbound : hi < 256 ∧ hi' < 256)
          (hfirst : lo ≤ v / 4096 % 16 + 224 ∧ v / 4096 % 16 + 224 ≤ hi)
          (hsecond : lo' ≤ v / 64 % 64 + 128 ∧ v / 64 % 64 + 128 ≤ hi') :
          ∃ row ∈ rows, List.Forall₂ InRange [.ofNat (v / 4096 % 16 + 224),
            .ofNat (v / 64 % 64 + 128), .ofNat (v % 64 + 128)] row :=
        ⟨_, mem, .cons (inRange_ofNat hfirst hbound.1)
          (.cons (inRange_ofNat hsecond hbound.2) (.cons (inRange_tail v) .nil))⟩
      by_cases hlow : v < 0x1000
      · exact fits 0xe0 0xe0 0xa0 0xbf (by simp [rows]) (by omega) (by omega) (by omega)
      by_cases hmid : v < 0xd000
      · exact fits 0xe1 0xec 0x80 0xbf (by simp [rows]) (by omega) (by omega) (by omega)
      by_cases hgap : v < 0xd800
      · exact fits 0xed 0xed 0x80 0x9f (by simp [rows]) (by omega) (by omega) (by omega)
      · exact fits 0xee 0xef 0x80 0xbf (by simp [rows]) (by omega) (by omega) (by omega)
  · next h1 h2 h3 =>
      have fits (lo hi lo' hi' : Nat)
          (mem : [(lo, hi), (lo', hi'), (0x80, 0xbf), (0x80, 0xbf)] ∈ rows)
          (hbound : hi < 256 ∧ hi' < 256)
          (hfirst : lo ≤ v / 262144 % 8 + 240 ∧ v / 262144 % 8 + 240 ≤ hi)
          (hsecond : lo' ≤ v / 4096 % 64 + 128 ∧ v / 4096 % 64 + 128 ≤ hi') :
          ∃ row ∈ rows, List.Forall₂ InRange [.ofNat (v / 262144 % 8 + 240),
            .ofNat (v / 4096 % 64 + 128), .ofNat (v / 64 % 64 + 128),
            .ofNat (v % 64 + 128)] row :=
        ⟨_, mem, .cons (inRange_ofNat hfirst hbound.1)
          (.cons (inRange_ofNat hsecond hbound.2)
            (.cons (inRange_tail _) (.cons (inRange_tail v) .nil)))⟩
      by_cases hlow : v < 0x40000
      · exact fits 0xf0 0xf0 0x90 0xbf (by simp [rows]) (by omega) (by omega) (by omega)
      by_cases hmid : v < 0x100000
      · exact fits 0xf1 0xf3 0x80 0xbf (by simp [rows]) (by omega) (by omega) (by omega)
      · exact fits 0xf4 0xf4 0x80 0x8f (by simp [rows]) (by omega) (by omega) (by omega)

/-! The other way round, the bytes of a unit give a code back. The bounds on the
code are what the rows of the table ensure together. -/

theorem exists_char_one {a : UInt8} (ha : a.toNat ≤ 0x7f) :
    ∃ c, String.utf8EncodeChar c = [a] := by
  obtain ⟨c, hc⟩ := exists_char_of_isValidChar (v := a.toNat) (Or.inl (by omega))
  refine ⟨c, hc.trans ?_⟩
  rw [encode, if_pos ha, ofNat_eq rfl]

theorem exists_char_two {a b : UInt8} (ha : 0xc2 ≤ a.toNat ∧ a.toNat ≤ 0xdf)
    (hb : InRange b (0x80, 0xbf)) : ∃ c, String.utf8EncodeChar c = [a, b] := by
  simp only [InRange] at hb
  obtain ⟨v, hv⟩ : ∃ v, v = (a.toNat - 192) * 64 + (b.toNat - 128) := ⟨_, rfl⟩
  obtain ⟨c, hc⟩ := exists_char_of_isValidChar (v := v) (Or.inl (by omega))
  refine ⟨c, hc.trans ?_⟩
  rw [encode, if_neg (by omega), if_pos (by omega)]
  rw [ofNat_eq (n := v / 64 % 32 + 192) (b := a) (by omega),
    ofNat_eq (n := v % 64 + 128) (b := b) (by omega)]

theorem exists_char_three {a b d : UInt8} {v : Nat}
    (hv : v = (a.toNat - 224) * 4096 + (b.toNat - 128) * 64 + (d.toNat - 128))
    (ha : 0xe0 ≤ a.toNat ∧ a.toNat ≤ 0xef) (hb : 0x80 ≤ b.toNat ∧ b.toNat ≤ 0xbf)
    (hd : InRange d (0x80, 0xbf)) (hlow : 0x800 ≤ v) (hvalid : v < 0xd800 ∨ 0xdfff < v) :
    ∃ c, String.utf8EncodeChar c = [a, b, d] := by
  simp only [InRange] at hd
  have hscalar : v.isValidChar := by
    rcases hvalid with h | h
    · exact Or.inl h
    · exact Or.inr ⟨h, by omega⟩
  obtain ⟨c, hc⟩ := exists_char_of_isValidChar hscalar
  refine ⟨c, hc.trans ?_⟩
  rw [encode, if_neg (by omega), if_neg (by omega), if_pos (by omega)]
  rw [ofNat_eq (n := v / 4096 % 16 + 224) (b := a) (by omega),
    ofNat_eq (n := v / 64 % 64 + 128) (b := b) (by omega),
    ofNat_eq (n := v % 64 + 128) (b := d) (by omega)]

theorem exists_char_four {a b d e : UInt8} {v : Nat}
    (hv : v = (a.toNat - 240) * 262144 + (b.toNat - 128) * 4096 +
      (d.toNat - 128) * 64 + (e.toNat - 128))
    (ha : 0xf0 ≤ a.toNat ∧ a.toNat ≤ 0xf4) (hb : 0x80 ≤ b.toNat ∧ b.toNat ≤ 0xbf)
    (hd : InRange d (0x80, 0xbf)) (he : InRange e (0x80, 0xbf))
    (hvalid : 0xffff < v ∧ v < 0x110000) : ∃ c, String.utf8EncodeChar c = [a, b, d, e] := by
  simp only [InRange] at hd he
  obtain ⟨c, hc⟩ := exists_char_of_isValidChar (v := v) (Or.inr (by omega))
  refine ⟨c, hc.trans ?_⟩
  rw [encode, if_neg (by omega), if_neg (by omega), if_neg (by omega)]
  rw [ofNat_eq (n := v / 262144 % 8 + 240) (b := a) (by omega),
    ofNat_eq (n := v / 4096 % 64 + 128) (b := b) (by omega),
    ofNat_eq (n := v / 64 % 64 + 128) (b := d) (by omega),
    ofNat_eq (n := v % 64 + 128) (b := e) (by omega)]

/-- A unit that fits a row is the encoding of a character. -/
theorem exists_char {row : List (Nat × Nat)} {bytes : List UInt8} (mem : row ∈ rows)
    (fits : List.Forall₂ InRange bytes row) : ∃ c, String.utf8EncodeChar c = bytes := by
  simp only [rows, List.mem_cons, List.not_mem_nil, or_false] at mem
  rcases mem with rfl | rfl | rfl | rfl | rfl | rfl | rfl | rfl | rfl
  -- One byte is taken off all rows at a time, and the rows that end are settled.
  all_goals
    obtain ⟨a, t1, ha, fits1, rfl⟩ := List.forall₂_cons_right_iff.1 fits
    simp only [InRange] at ha
  case inl =>
    obtain rfl := List.forall₂_nil_right_iff.1 fits1
    exact exists_char_one ha.2
  all_goals obtain ⟨b, t2, hb, fits2, rfl⟩ := List.forall₂_cons_right_iff.1 fits1
  case inr.inl =>
    obtain rfl := List.forall₂_nil_right_iff.1 fits2
    exact exists_char_two ha hb
  all_goals
    simp only [InRange] at hb
    obtain ⟨d, t3, hd, fits3, rfl⟩ := List.forall₂_cons_right_iff.1 fits2
    have hdRange := hd
    simp only [InRange] at hdRange
  iterate 4
    · obtain rfl := List.forall₂_nil_right_iff.1 fits3
      exact exists_char_three rfl (by omega) (by omega) hd (by omega) (by omega)
  all_goals
    obtain ⟨e, t4, he, fits4, rfl⟩ := List.forall₂_cons_right_iff.1 fits3
    obtain rfl := List.forall₂_nil_right_iff.1 fits4
    have heRange := he
    simp only [InRange] at heRange
    exact exists_char_four rfl (by omega) (by omega) hd he (by omega)

/-! ## Texts -/

theorem wellFormed_flatMap (t : Text) : WellFormed (t.flatMap String.utf8EncodeChar) := by
  induction t with
  | nil => exact .nil
  | cons c t ih =>
      obtain ⟨row, mem, fits⟩ := exists_row c.valid
      rw [List.flatMap_cons, utf8EncodeChar_eq_encode]
      exact .unit mem fits ih

theorem WellFormed.exists_text {bytes : List UInt8} (h : WellFormed bytes) :
    ∃ t : Text, t.flatMap String.utf8EncodeChar = bytes := by
  induction h with
  | nil => exact ⟨[], rfl⟩
  | unit mem fits _ ih =>
      obtain ⟨c, rfl⟩ := exists_char mem fits
      obtain ⟨t, rfl⟩ := ih
      exact ⟨c :: t, List.flatMap_cons⟩

/-- The decoder accepts what the table admits. -/
theorem isSome_ofUtf8?_iff {bytes : ByteArray} :
    (Text.ofUtf8? bytes).isSome ↔ WellFormed bytes.data.toList := by
  rw [Option.isSome_iff_exists]
  constructor
  · rintro ⟨t, ht⟩
    rw [Text.ofUtf8?_eq_some_iff] at ht
    subst ht
    rw [List.utf8Encode, List.toList_data_toByteArray]
    exact wellFormed_flatMap t
  · intro h
    obtain ⟨t, ht⟩ := h.exists_text
    refine ⟨t, Text.ofUtf8?_eq_some_iff.2 ?_⟩
    rw [List.utf8Encode, ht]
    exact ByteArray.ext List.data_toByteArray.symm

end LosslessScanner.Utf8
