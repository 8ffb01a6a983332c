import LosslessScanner.Text.Extending
import LosslessScanner.Text.Ignorable
import LosslessScanner.Text.Wide
import LosslessScanner.Text.CharClass

/-!
# Width on a display

How many columns a character takes when a line is shown in a fixed-width font.
A character that is drawn onto another one, or not drawn at all, takes none;
East Asian wide characters take two; the rest take one. A control code takes
none here: what a tab does depends on the column it starts in and is the
business of whoever lays out the line.

Displays lag behind the standard. Letters and quoting follow Unicode 16, but
the columns are those of Unicode 15.1, so a character that Unicode 16 brought
in, or made a combining mark of, still takes a column to itself.
-/

namespace LosslessScanner.Text

/-- The marks that Unicode 16 added to the property `Grapheme_Extend`. -/
def recentMarks : CodePointSet := ⟨#[
    0x897, 0x898, 0x1715, 0x1716, 0x1734, 0x1735, 0x1b44, 0x1b45, 0x1baa, 0x1bab, 0x1bf2, 0x1bf4,
    0xa953, 0xa954, 0xa9c0, 0xa9c1, 0x10d69, 0x10d6e, 0x10efc, 0x10efd, 0x111c0, 0x111c1, 0x11235,
    0x11236, 0x1134d, 0x1134e, 0x113b8, 0x113b9, 0x113bb, 0x113c1, 0x113c2, 0x113c3, 0x113c5,
    0x113c6, 0x113c7, 0x113ca, 0x113ce, 0x113d1, 0x113d2, 0x113d3, 0x113e1, 0x113e3, 0x116b6,
    0x116b7, 0x1193d, 0x1193e, 0x11f41, 0x11f42, 0x11f5a, 0x11f5b, 0x1611e, 0x1612a, 0x1612d,
    0x16130, 0x16ff0, 0x16ff2, 0x1d166, 0x1d167, 0x1d16d, 0x1d16e, 0x1e5ee, 0x1e5f0]⟩

/-- Marks drawn onto the character before them. U+1171E is the one mark that Unicode 16 took
out of the property again. -/
def isDrawnOver (c : Char) : Bool :=
  (extending.contains c && !recentMarks.contains c) || c.toNat == 0x1171e

/-- The vowels and final consonants of Hangul, which join the syllable begun before them. -/
def isJoiningJamo (c : Char) : Bool :=
  let n := c.toNat
  (0x1160 ≤ n && n ≤ 0x11ff) || (0xd7b0 ≤ n && n ≤ 0xd7c6) || (0xd7cb ≤ n && n ≤ 0xd7fb)

/-- Marks written before the letters or numbers that they are drawn onto, such as the Arabic
number mark and the Indic signs for a preceding `r`, and the caret written over a letter. -/
def overlayMarks : CodePointSet := ⟨#[
    0x605, 0x606, 0x70f, 0x710, 0x890, 0x892, 0x8e2, 0x8e3, 0xd4e, 0xd4f, 0xa8fa, 0xa8fb, 0x111c2,
    0x111c4, 0x1193f, 0x11940, 0x11941, 0x11942, 0x11a3a, 0x11a3b, 0x11a84, 0x11a8a, 0x11d46,
    0x11d47, 0x11f02, 0x11f03]⟩

/-- Characters whose width their class does not tell: the Hangul filler, which stands for a
whole consonant, two Khmer signs that are drawn as several letters, and the Tifinagh joiner,
which is seen unless it stands between two consonants. -/
def irregularWidth (c : Char) : Option Nat :=
  match c.toNat with
  | 0x115f => some 2
  | 0x17a4 => some 2
  | 0x17d8 => some 3
  | 0x2d7f => some 1
  | _ => none

/-- The number of columns that a character takes. -/
def width (c : Char) : Nat :=
  if c.toNat < 0x7f then (if isControl c then 0 else 1)
  else match irregularWidth c with
    | some w => w
    | none =>
      if isControl c || ignorable.contains c || isDrawnOver c || isJoiningJamo c
          || overlayMarks.contains c then 0
      else if wide.contains c then 2
      else 1

end LosslessScanner.Text
