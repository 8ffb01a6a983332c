import LosslessScanner.Text.Basic

/-!
# Lines of a source

A line runs up to and including its line feed; no other character ends one. The
last line has no line feed and may be empty, so every text has at least one. A
byte offset lies in the line whose bytes include it, and one at or past the end
of the text lies in the last line. The column of an offset counts characters,
from one.
-/

namespace LosslessScanner

/-- The lines of a text, each with the line feed that ends it. -/
def splitLines : Text → List Text
  | [] => [[]]
  | c :: t =>
    if c = '\n' then [c] :: splitLines t
    else match splitLines t with
      | [] => [[c]]
      | line :: lines => (c :: line) :: lines

/-- A line, its number from one, and the byte offset at which it starts. -/
structure SourceLine where
  number : Nat
  start : Nat
  text : Text
  deriving DecidableEq

namespace SourceLine

/-- The line among `lines` in which an offset lies, if the first of them has the given number and
start. -/
def find (offset number start : Nat) : List Text → SourceLine
  | [] => ⟨number, start, []⟩
  | [line] => ⟨number, start, line⟩
  | line :: lines =>
    if offset < start + line.byteSize then ⟨number, start, line⟩
    else find offset (number + 1) (start + line.byteSize) lines

/-- The line of a source in which a byte offset lies. -/
def containing (source : Text) (offset : Nat) : SourceLine := find offset 1 0 (splitLines source)

/-- Lines with their numbers and starts, if the first of them has the given number and start. -/
def enumerate (number start : Nat) : List Text → List SourceLine
  | [] => []
  | line :: lines =>
    ⟨number, start, line⟩ :: enumerate (number + 1) (start + line.byteSize) lines

/-- All lines of a source. -/
def all (source : Text) : List SourceLine := enumerate 1 0 (splitLines source)

/-- How many characters of a text that starts at byte offset `start` end at or before `offset`. -/
def charsBefore (start offset : Nat) : Text → Nat
  | [] => 0
  | c :: t =>
    if start + c.utf8Size ≤ offset then charsBefore (start + c.utf8Size) offset t + 1 else 0

/-- The column of a byte offset in a line, from one. -/
def column (line : SourceLine) (offset : Nat) : Nat :=
  charsBefore line.start offset line.text + 1

/-- Characters at the end of a line that are not shown. -/
def isTrailing (c : Char) : Bool := c == '\n' || c == '\r' || c == '\x00'

/-- A line as it is shown. -/
def shown (line : SourceLine) : Text := line.text.trimEnd isTrailing

end SourceLine

end LosslessScanner
