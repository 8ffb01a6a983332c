import LosslessScanner.Proofs.Spans
import LosslessScanner.Proofs.WellFormedUtf8
import LosslessScanner.Session

/-!
# Files without loss

From the bytes of a file to the spans of its tokens nothing is dropped, changed
or repaired. There are two ways to lose something. A decoder could put other
characters in the place of bytes it does not understand; here such bytes give
no session at all. And a scanner could count wrongly, since it measures in
bytes while it looks at characters of one to four of them; that the spans tile
the bytes says that it does not, whatever the text is made of.
-/

namespace LosslessScanner.Session

/-- What is said of a file whose bytes are no text. -/
def notText (path : Text) : Problem :=
  .file ("failed to read ".toList ++ path ++ ": ".toList ++ ReadFailure.notUtf8.message)

theorem ofFile_of_eq_none {path : Text} {bytes : ByteArray}
    (h : Text.ofUtf8? bytes = none) : ofFile path (.ok bytes) = .error (notText path) := by
  simp only [ofFile, h]
  rfl

theorem ofFile_of_eq_some {path source : Text} {bytes : ByteArray}
    (h : Text.ofUtf8? bytes = some source) :
    ofFile path (.ok bytes) = .ok (ofText path source) := by
  simp only [ofFile, h]

theorem isOk_ofFile_iff {path : Text} {bytes : ByteArray} :
    (ofFile path (.ok bytes)).isOk ↔ Utf8.WellFormed bytes.data.toList := by
  rw [← Utf8.isSome_ofUtf8?_iff]
  cases h : Text.ofUtf8? bytes with
  | none => rw [ofFile_of_eq_none h]; rfl
  | some source => rw [ofFile_of_eq_some h]; rfl

/-- The bytes of a file give a session exactly if they are well-formed UTF-8. If
they do, the spans of its tokens tile these very bytes, and if they do not,
the file is reported as unreadable. -/
theorem ofFile_lossless (path : Text) (bytes : ByteArray) :
    ((ofFile path (.ok bytes)).isOk ↔ Utf8.WellFormed bytes.data.toList) ∧
      match ofFile path (.ok bytes) with
      | .ok s => Tiles bytes s.tokens
      | .error p => p = notText path := by
  refine ⟨isOk_ofFile_iff, ?_⟩
  cases h : Text.ofUtf8? bytes with
  | none =>
      rw [ofFile_of_eq_none h]
  | some source =>
      rw [ofFile_of_eq_some h]
      obtain rfl := Text.ofUtf8?_eq_some_iff.1 h
      exact tiles_scanFile source

end LosslessScanner.Session
