import LosslessScanner.Text.Basic

/-!
# Bytes and texts

Files and the standard input are bytes; a text can be made of them only if they
are well-formed UTF-8. Decoding is the partial inverse of the encoding, and it
never repairs anything: bytes that are not the encoding of a text have no text.
-/

namespace LosslessScanner.Text

/-- The text whose UTF-8 form the bytes are, if there is one. -/
def ofUtf8? (bytes : ByteArray) : Option Text :=
  bytes.utf8Decode?.map Array.toList

/-- Bytes have the text that they are the encoding of, and no other. -/
theorem ofUtf8?_eq_some_iff {bytes : ByteArray} {t : Text} :
    ofUtf8? bytes = some t ↔ bytes = t.utf8Encode := by
  constructor
  · intro h
    obtain ⟨chars, hchars, rfl⟩ := Option.map_eq_some_iff.1 h
    have hsome : bytes.utf8Decode?.isSome := by simp [hchars]
    have hback := ByteArray.utf8Encode_get_utf8Decode? (h := hsome)
    simp only [hchars, Option.get_some] at hback
    exact hback.symm
  · rintro rfl
    simp [ofUtf8?, List.utf8Decode?_utf8Encode]

/-- The size of a text is the number of bytes that encode it. -/
theorem size_utf8Encode (t : Text) : t.utf8Encode.size = t.byteSize := by
  induction t with
  | nil => rfl
  | cons c t ih =>
    rw [List.utf8Encode_cons, ByteArray.size_append, ih, List.utf8Encode_singleton]
    simp

end LosslessScanner.Text
