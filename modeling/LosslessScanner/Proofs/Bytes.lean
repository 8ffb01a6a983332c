import LosslessScanner.Text.Utf8

/-!
# Cutting the bytes of a text

The library speaks of texts and measures them in bytes. A reader of its spans
has bytes in hand and cuts them at the offsets. The two views meet here: bytes
cut at the size of a front part are the bytes of the parts, and such an offset
never lies inside a character.
-/

namespace LosslessScanner.Text

theorem byteSize_eq_zero_iff {t : Text} : t.byteSize = 0 ↔ t = [] := by
  constructor
  · intro h
    have := length_le_byteSize t
    exact List.length_eq_zero_iff.1 (by omega)
  · rintro rfl
    rfl

theorem byteSize_le_of_prefix {s t : Text} (h : s <+: t) : s.byteSize ≤ t.byteSize := by
  obtain ⟨u, rfl⟩ := h
  rw [byteSize_append]
  exact Nat.le_add_right _ _

/-- A front part with as many bytes as the whole is the whole. -/
theorem eq_of_prefix_of_byteSize_le {s t : Text} (h : s <+: t)
    (hsize : t.byteSize ≤ s.byteSize) : s = t := by
  obtain ⟨u, rfl⟩ := h
  rw [byteSize_append] at hsize
  have hzero : byteSize u = 0 := by omega
  obtain rfl := byteSize_eq_zero_iff.1 hzero
  exact (List.append_nil s).symm

/-- An offset in bytes is that of one position only. -/
theorem eq_of_byteSize_take {s : Text} {p q : Nat} (hp : p ≤ s.length) (hq : q ≤ s.length)
    (h : byteSize (s.take p) = byteSize (s.take q)) : p = q := by
  have htake : s.take p = s.take q := by
    rcases Nat.le_total p q with hle | hle
    · exact eq_of_prefix_of_byteSize_le (List.take_prefix_take_left hle) (Nat.le_of_eq h.symm)
    · exact (eq_of_prefix_of_byteSize_le (List.take_prefix_take_left hle) (Nat.le_of_eq h)).symm
  have hlength := congrArg List.length htake
  rwa [List.length_take_of_le hp, List.length_take_of_le hq] at hlength

/-- The bytes between the sizes of two front parts encode what is between them. -/
theorem extract_utf8Encode (a b c : Text) :
    (a ++ b ++ c).utf8Encode.extract a.byteSize (a.byteSize + b.byteSize) =
      b.utf8Encode := by
  rw [List.append_assoc, List.utf8Encode_append, List.utf8Encode_append,
    ← size_utf8Encode a, ← size_utf8Encode b]
  have h := ByteArray.extract_append_size_add (a := a.utf8Encode)
    (b := b.utf8Encode ++ c.utf8Encode) (i := 0) (j := b.utf8Encode.size)
  rw [Nat.add_zero] at h
  rw [h]
  exact ByteArray.extract_append_eq_left rfl

/-- The bytes behind a front part encode the rest. -/
theorem extract_utf8Encode_right (a b : Text) :
    (a ++ b).utf8Encode.extract a.byteSize (a ++ b).byteSize = b.utf8Encode := by
  have h := extract_utf8Encode a b []
  rw [List.append_nil] at h
  rw [byteSize_append, h]

/-- The size of a front part is the offset of a character, or of the end. -/
theorem isValid_byteSize (a b : Text) :
    String.Pos.Raw.IsValid (String.ofList (a ++ b)) ⟨a.byteSize⟩ := by
  rw [String.Pos.Raw.isValid_iff_isValidUTF8_extract_zero, String.toByteArray_ofList]
  constructor
  · rw [String.Pos.Raw.le_iff, String.byteIdx_rawEndPos, ← String.size_toByteArray,
      String.toByteArray_ofList, size_utf8Encode, byteSize_append]
    exact Nat.le_add_right _ _
  · have h := extract_utf8Encode [] a b
    rw [List.nil_append, byteSize_nil, Nat.zero_add] at h
    rw [h]
    exact ByteArray.isValidUTF8_utf8Encode

end LosslessScanner.Text
