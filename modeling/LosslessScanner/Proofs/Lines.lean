import LosslessScanner.Proofs.Blanks
import LosslessScanner.Proofs.WellFormedUtf8
import LosslessScanner.Shell.Repl

/-!
# Line by line

The line reader sees one line at a time, a dump sees the whole file. They agree
on all tokens but whitespace. A line feed, with the carriage return in front of
it, is a line end followed by blanks at most, and `solidAt_append_blanks` says
that a text can be cut there. What is left is to count: a line that is scanned
for itself starts at zero, and its tokens have to be moved to where the line
stands in the file.

Lines are said here by splitting a text at its line feeds. The reader works on
bytes and knows no text until a line is complete, so the file ends with the
proof that it hands out the same lines: the byte of a line feed is in the
encoding of no other character (`Utf8.eq_of_mem_encode`), hence cutting the bytes
cuts no character.
-/

namespace LosslessScanner

/-- A line without its end, and the offset of its first byte in the source. -/
structure Line where
  offset : Nat
  text : Text
  deriving DecidableEq

namespace Line

/-- A piece of a source that a line feed has ended, without the carriage return at its end. -/
def withoutReturn (t : Text) : Text :=
  if t.getLast? = some '\r' then t.dropLast else t

/-- The lines that the pieces between line feeds make. Nothing has ended the last piece, and
it is a line if there is anything in it. -/
def ofPieces (offset : Nat) : List Text → List Line
  | [] => []
  | [last] => if last = [] then [] else [⟨offset, last⟩]
  | piece :: pieces =>
    ⟨offset, withoutReturn piece⟩ :: ofPieces (offset + piece.byteSize + '\n'.utf8Size) pieces

/-- The lines of a source that starts at a byte offset. -/
def split (offset : Nat) (s : Text) : List Line := ofPieces offset (s.splitOn '\n')

theorem split_of_not_mem {s : Text} (offset : Nat) (h : '\n' ∉ s) :
    split offset s = if s = [] then [] else [⟨offset, s⟩] := by
  rw [split, List.splitOn_eq_singleton h, ofPieces]

theorem split_append {p : Text} (offset : Nat) (h : '\n' ∉ p) (r : Text) :
    split offset (p ++ '\n' :: r) =
      ⟨offset, withoutReturn p⟩ :: split (offset + p.byteSize + '\n'.utf8Size) r := by
  rw [split, List.splitOn_append_cons_self_of_not_mem h]
  obtain ⟨q, qs, hq⟩ := List.exists_cons_of_ne_nil (List.splitOn_ne_nil '\n' r)
  rw [split, hq, ofPieces]
  exact List.cons_ne_nil q qs

/-- To prove something of every text, line by line from the end. -/
theorem split_induction {motive : Text → Prop} (last : ∀ s, '\n' ∉ s → motive s)
    (more : ∀ p r, '\n' ∉ p → motive r → motive (p ++ '\n' :: r)) (s : Text) : motive s := by
  by_cases h : '\n' ∈ s
  · obtain ⟨p, r, hs, hp⟩ := List.eq_append_cons_of_mem h
    rw [hs]
    exact more p r hp (split_induction last more r)
  · exact last s h
termination_by s.length
decreasing_by rw [hs, List.length_append, List.length_cons]; omega

/-! ## Tokens -/

/-- What stands between two lines: the line feed, perhaps with a carriage return. -/
theorem exists_ending (p : Text) :
    ∃ e, p ++ ['\n'] = withoutReturn p ++ e ∧ (∀ c ∈ e, isBlank c) ∧
      e.begins isLineEnd = true := by
  by_cases h : p.getLast? = some '\r'
  · obtain ⟨q, rfl⟩ := List.getLast?_eq_some_iff.1 h
    refine ⟨['\r', '\n'], ?_, List.all_eq_true.1 rfl, rfl⟩
    rw [withoutReturn, if_pos h, List.dropLast_concat, List.append_assoc]
    rfl
  · refine ⟨['\n'], ?_, List.all_eq_true.1 rfl, rfl⟩
    rw [withoutReturn, if_neg h]

theorem solidAt_append_lineFeed (start : Nat) (p r : Text) :
    solidAt start (p ++ '\n' :: r) =
      solidAt start (withoutReturn p) ++ solidAt (start + p.byteSize + '\n'.utf8Size) r := by
  obtain ⟨e, hp, blank, hline⟩ := exists_ending p
  have hsize := congrArg Text.byteSize hp
  simp only [Text.byteSize_append, Text.byteSize_cons, Text.byteSize_nil] at hsize
  have hoffset : start + (withoutReturn p).byteSize + e.byteSize =
      start + p.byteSize + '\n'.utf8Size := by omega
  rw [← List.singleton_append, ← List.append_assoc, hp, List.append_assoc,
    solidAt_append_blanks blank hline, hoffset]

/-- The solid tokens of the lines, each line where it stands, are those of the text. -/
theorem flatMap_solidAt_split (start : Nat) (s : Text) :
    (split start s).flatMap (fun l => solidAt l.offset l.text) = solidAt start s := by
  induction s using split_induction generalizing start with
  | last s h =>
      rw [split_of_not_mem start h]
      by_cases hs : s = []
      · rw [if_pos hs, hs]
        rfl
      · rw [if_neg hs, List.flatMap_singleton]
  | more p r hp ih =>
      rw [split_append start hp, List.flatMap_cons, ih, solidAt_append_lineFeed]

end Line

/-! ## The reader

The same lines, out of bytes. -/

namespace Utf8

theorem lineFeed_not_mem {t : Text} (h : '\n' ∉ t) : 10 ∉ t.flatMap String.utf8EncodeChar := by
  intro hmem
  obtain ⟨c, hc, hbyte⟩ := List.mem_flatMap.1 hmem
  rw [utf8EncodeChar_eq_encode] at hbyte
  have hcode : c.toNat = 10 := eq_of_mem_encode (by decide) hbyte
  obtain rfl : c = '\n' := char_eq_iff.2 hcode
  exact h hc

end Utf8

namespace Repl

theorem chunks_of_not_mem {bytes : List UInt8} (h : 10 ∉ bytes) :
    chunks bytes = if bytes = [] then [] else [bytes] := by
  induction bytes with
  | nil => rfl
  | cons b bs ih =>
      simp only [List.mem_cons, not_or] at h
      rw [chunks, if_neg (Ne.symm h.1), ih h.2, if_neg (List.cons_ne_nil b bs)]
      by_cases hbs : bs = []
      · rw [hbs, if_pos rfl]
      · rw [if_neg hbs]

theorem chunks_append {bytes : List UInt8} (h : 10 ∉ bytes) (more : List UInt8) :
    chunks (bytes ++ 10 :: more) = (bytes ++ [10]) :: chunks more := by
  induction bytes with
  | nil => rw [List.nil_append, chunks, if_pos rfl, List.nil_append]
  | cons b bs ih =>
      simp only [List.mem_cons, not_or] at h
      rw [List.cons_append, chunks, if_neg (Ne.symm h.1), ih h.2, List.cons_append]

theorem withoutEnd_append (t : Text) : withoutEnd (t ++ ['\n']) = Line.withoutReturn t := by
  by_cases h : t.getLast? = some '\r'
  · obtain ⟨u, rfl⟩ := List.getLast?_eq_some_iff.1 h
    rw [Line.withoutReturn, if_pos h, List.dropLast_concat]
    simp [withoutEnd]
  · rw [Line.withoutReturn, if_neg h]
    rcases List.eq_nil_or_concat' t with rfl | ⟨u, c, rfl⟩
    · rfl
    · have hc : c ≠ '\r' := fun hc => h (by rw [hc, List.getLast?_concat])
      simp [withoutEnd, hc]

theorem withoutEnd_of_not_mem {t : Text} (h : '\n' ∉ t) : withoutEnd t = t := by
  rcases List.eq_nil_or_concat' t with rfl | ⟨u, c, rfl⟩
  · rfl
  · have hc : c ≠ '\n' := fun hc => h (by rw [hc]; simp)
    simp [withoutEnd, hc]

/-- The text that the bytes of a line hold. -/
def text? (line : List UInt8) : Option Text := Text.ofUtf8? ⟨line.toArray⟩

theorem text?_encode (t : Text) : text? (t.flatMap String.utf8EncodeChar) = some t :=
  Text.ofUtf8?_eq_some_iff.2 (ByteArray.ext List.data_toByteArray.symm)

theorem line?_encode (t : Text) :
    line? (t.flatMap String.utf8EncodeChar) = some (withoutEnd t) :=
  congrArg (Option.map withoutEnd) (text?_encode t)

theorem encode_lineFeed (t : Text) :
    (t ++ ['\n']).flatMap String.utf8EncodeChar = t.flatMap String.utf8EncodeChar ++ [10] := by
  rw [List.flatMap_append]
  rfl

theorem line?_lineFeed (t : Text) :
    line? (t.flatMap String.utf8EncodeChar ++ [10]) = some (Line.withoutReturn t) := by
  rw [← encode_lineFeed, line?_encode, withoutEnd_append]

/-- The reader finds the lines of the text that the bytes encode. -/
theorem map_line?_chunks (offset : Nat) (s : Text) :
    (chunks (s.flatMap String.utf8EncodeChar)).map line? =
      (Line.split offset s).map fun l => some l.text := by
  induction s using Line.split_induction generalizing offset with
  | last s h =>
      rw [chunks_of_not_mem (Utf8.lineFeed_not_mem h), Line.split_of_not_mem offset h]
      cases s with
      | nil => rfl
      | cons c s =>
          have hne : (c :: s).flatMap String.utf8EncodeChar ≠ [] := by
            rw [List.flatMap_cons]
            intro hnil
            exact String.utf8EncodeChar_ne_nil (List.append_eq_nil_iff.1 hnil).1
          rw [if_neg hne, if_neg (List.cons_ne_nil c s), List.map_singleton, line?_encode,
            withoutEnd_of_not_mem h]
          rfl
  | more p r hp ih =>
      have hsplit : (p ++ '\n' :: r).flatMap String.utf8EncodeChar =
          p.flatMap String.utf8EncodeChar ++ 10 :: r.flatMap String.utf8EncodeChar := by
        rw [List.flatMap_append, List.flatMap_cons]
        rfl
      rw [hsplit, chunks_append (Utf8.lineFeed_not_mem hp), Line.split_append offset hp,
        List.map_cons, List.map_cons, line?_lineFeed, ih]

end Repl

/-- Scanned line by line or as a whole, a text has the same tokens in the same places, apart
from whitespace, and its lines are what the line reader makes of its bytes. -/
theorem flatMap_solidAt_lines (s : Text) :
    (Line.split 0 s).flatMap (fun l => solidAt l.offset l.text) = solidAt 0 s ∧
      (Repl.chunks s.utf8Encode.data.toList).map Repl.line? =
        (Line.split 0 s).map fun l => some l.text := by
  refine ⟨Line.flatMap_solidAt_split 0 s, ?_⟩
  rw [List.utf8Encode, List.toList_data_toByteArray]
  exact Repl.map_line?_chunks 0 s

end LosslessScanner
