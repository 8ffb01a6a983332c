import Mathlib.Tactic.SplitIfs
import LosslessScanner.Proofs.Number.Digits
import LosslessScanner.Token.Basic

/-!
# Text between quotes, read back

Two forms write any text between double quotes: the one for people, and the
strings of JSON. They differ in what they escape and in how they write the code
of a character, but a reader goes through both in the same way. A backslash
says that the next characters stand for one, a double quote ends the text, and
anything else stands for itself. So the form is a parameter of the reader, and
whether a text can be read back is a question about single characters
(`Escapes.Reads`): if what is written for each is read as that character,
whatever follows it, then texts of them are read back too (`read_flatMap`).

That the escapes are not mistaken for each other needs no argument about what
stands next to them. The reader knows from the escape alone how long it is.
-/

namespace LosslessScanner

/-- How characters are escaped between double quotes: by a letter behind the backslash, or by a
`u` and the code of the character. -/
structure Escapes where
  /-- The letters, each with the character that it stands for. -/
  letters : List (Char × Char)
  /-- The character whose code a text begins with, and the length of the code. -/
  code? : Text → Option (Char × Nat)
  /-- What may stand for itself. -/
  bare : Char → Bool

namespace Escapes

variable {e : Escapes}

/-- The character that is escaped by the text behind a backslash, and how much of the text
belongs to it. -/
def escape? (e : Escapes) : Text → Option (Char × Nat)
  | [] => none
  | 'u' :: t => (e.code? t).map fun (c, n) => (c, n + 1)
  | l :: _ => (e.letters.lookup l).map fun c => (c, 1)

/-- Reads up to the closing quote: the text, and what stands behind the quote. -/
def read (e : Escapes) (t : Text) : Option (Text × Text) :=
  match t with
  | [] => none
  | c :: rest =>
    if c = '"' then some ([], rest)
    else if c = '\\' then
      match e.escape? rest with
      | none => none
      | some (d, n) => (e.read (rest.drop n)).map fun (s, behind) => (d :: s, behind)
    else if e.bare c then (e.read rest).map fun (s, behind) => (c :: s, behind)
    else none
termination_by t.length
decreasing_by all_goals simp only [List.length_drop, List.length_cons]; omega

/-- A text is read as one character, whatever follows it. -/
inductive Reads (e : Escapes) : Text → Char → Prop where
  | bare {c : Char} (quote : c ≠ '"') (backslash : c ≠ '\\') (bare : e.bare c) : Reads e [c] c
  | escaped {u : Text} {c : Char} (h : ∀ r, e.escape? (u ++ r) = some (c, u.length)) :
      Reads e ('\\' :: u) c

theorem read_append {w : Text} {c : Char} (h : e.Reads w c) (r : Text) :
    e.read (w ++ r) = (e.read r).map fun (s, behind) => (c :: s, behind) := by
  cases h with
  | bare quote backslash bare =>
      rw [List.singleton_append, read, if_neg quote, if_neg backslash, if_pos bare]
  | @escaped u c h =>
      rw [List.cons_append, read, if_neg (by decide), if_pos rfl, h]
      show (e.read ((u ++ r).drop u.length)).map _ = _
      rw [List.drop_left]

theorem read_flatMap {write : Char → Text} (h : ∀ c, e.Reads (write c) c) (t r : Text) :
    e.read (t.flatMap write ++ '"' :: r) = some (t, r) := by
  induction t with
  | nil => rw [List.flatMap_nil, List.nil_append, read, if_pos rfl]
  | cons c t ih =>
      rw [List.flatMap_cons, List.append_assoc, read_append (h c), ih]
      rfl

end Escapes

namespace Text

/-- The character of a code, if it has one. -/
def charOf? (n : Nat) : Option Char := if n.isValidChar then some (Char.ofNat n) else none

theorem charOf?_toNat (c : Char) : charOf? c.toNat = some c := by
  have hvalid : c.toNat.isValidChar := c.valid
  rw [charOf?, if_pos hvalid, Char.ofNat_toNat]

/-! ## Quotes for people -/

/-- A code between braces. -/
def bracedCode? : Text → Option (Char × Nat)
  | '\x7b' :: t =>
    let digits := t.takeWhile Pattern.isHexDigit
    if (t.drop digits.length).head? = some '\x7d' then
      (charOf? (ofHex digits)).map fun c => (c, digits.length + 2)
    else none
  | _ => none

def quoteEscapes : Escapes where
  letters := [('0', '\x00'), ('t', '\t'), ('r', '\r'), ('n', '\n'), ('"', '"'), ('\\', '\\')]
  code? := bracedCode?
  bare _ := true

theorem bracedCode?_hex (c : Char) (r : Text) :
    bracedCode? ('\x7b' :: (hex c.toNat ++ '\x7d' :: r)) =
      some (c, (hex c.toNat).length + 2) := by
  obtain ⟨hdigits, hvalue⟩ := hex_read c.toNat
  have htake : (hex c.toNat ++ '\x7d' :: r).takeWhile Pattern.isHexDigit = hex c.toNat := by
    rw [List.takeWhile_append_of_pos hdigits, List.takeWhile_cons_of_neg (by decide),
      List.append_nil]
  simp only [bracedCode?, htake, List.drop_left, List.head?_cons, if_true, hvalue, charOf?_toNat,
    Option.map_some]

theorem reads_quoteChar (c : Char) : quoteEscapes.Reads (quoteChar c) c := by
  rw [quoteChar]
  split_ifs with hnull htab hreturn hfeed hquote hbackslash hhidden
  · subst hnull
    exact .escaped fun r => rfl
  · subst htab
    exact .escaped fun r => rfl
  · subst hreturn
    exact .escaped fun r => rfl
  · subst hfeed
    exact .escaped fun r => rfl
  · subst hquote
    exact .escaped fun r => rfl
  · subst hbackslash
    exact .escaped fun r => rfl
  · show quoteEscapes.Reads ('\\' :: 'u' :: '\x7b' :: (hex c.toNat ++ ['\x7d'])) c
    refine .escaped fun r => ?_
    show (bracedCode? ('\x7b' :: (hex c.toNat ++ ['\x7d'] ++ r))).map _ = _
    rw [List.append_assoc, List.singleton_append, bracedCode?_hex]
    simp
  · exact .bare hquote hbackslash rfl

theorem blank_le_of_hexDigit {c : Char} (h : Pattern.isHexDigit c = true) : 0x20 ≤ c.toNat := by
  simp only [Pattern.isHexDigit, Char.isDigit, Bool.or_eq_true, Bool.and_eq_true,
    decide_eq_true_eq, Char.le_def, UInt32.le_iff_toNat_le] at h
  rcases h with (⟨h, -⟩ | ⟨h, -⟩) | ⟨h, -⟩
  · exact Nat.le_trans (by decide) h
  · exact Nat.le_trans (by decide) h
  · exact Nat.le_trans (by decide) h

/-- Whatever is quoted, nothing below the blank is written for it. -/
theorem blank_le_of_mem_quoteChar {c d : Char} (h : d ∈ quoteChar c) : 0x20 ≤ d.toNat := by
  have hall {w : Text} (hw : (w.all fun d => 0x20 ≤ d.toNat) = true) (hd : d ∈ w) :
      0x20 ≤ d.toNat := of_decide_eq_true (List.all_eq_true.1 hw d hd)
  rw [quoteChar] at h
  split_ifs at h with hnull htab hreturn hfeed hquote hbackslash hhidden
  · exact hall (by decide) h
  · exact hall (by decide) h
  · exact hall (by decide) h
  · exact hall (by decide) h
  · exact hall (by decide) h
  · exact hall (by decide) h
  · simp only [List.mem_append, List.mem_singleton] at h
    rcases h with (hopen | hcode) | rfl
    · exact hall (by decide) hopen
    · exact blank_le_of_hexDigit ((hex_read c.toNat).1 d hcode)
    · decide
  · obtain rfl := List.mem_singleton.1 h
    rw [isHidden] at hhidden
    split at hhidden
    · simpa using hhidden
    · omega

theorem not_mem_quoted {c : Char} (h : c.toNat < 0x20) (t : Text) : c ∉ quoted t := by
  intro hc
  refine absurd h (Nat.not_lt.2 ?_)
  simp only [quoted, List.mem_cons, List.mem_append, List.mem_flatMap, List.not_mem_nil,
    or_false] at hc
  rcases hc with rfl | ⟨d, -, hd⟩ | rfl
  · decide
  · exact blank_le_of_mem_quoteChar hd
  · decide

end Text

end LosslessScanner
