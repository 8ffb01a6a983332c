import LosslessScanner.Diagnostic.Paint
import LosslessScanner.Diagnostic.SourceLine
import LosslessScanner.Text.Width

/-!
# A label in one line

A label that begins and ends in one line is shown in four rows: where the place
is, a border, the source line, and a row of carets under the place followed by
the remark. The rows have a margin with the line number.

Both the source row and the caret row are made from the same sequence of cells,
one for each character of the line, with the columns that it takes; the caret
row has one more for the place behind the line. A caret row repeats a caret as
often as its cell is wide, so it lines up with the source row, and a character
without width has no caret.
-/

namespace LosslessScanner

/-- A character of a source line as it is shown. -/
structure Cell where
  /-- What is printed: the character, or the blanks that a tab stands for. -/
  shown : Text
  /-- Its byte offset in the line. -/
  offset : Nat
  /-- Its size in bytes. -/
  size : Nat
  /-- The columns it takes. -/
  width : Nat
  deriving DecidableEq

namespace Cell

/-- The distance between tab stops. -/
def tabWidth : Nat := 4

/-- The columns that a character takes if it starts in a given column. -/
def widthAt (column : Nat) (c : Char) : Nat :=
  if c = '\t' then tabWidth - column % tabWidth else Text.width c

/-- The cell of a character at a byte offset and in a column. -/
def ofChar (offset column : Nat) (c : Char) : Cell :=
  let width := widthAt column c
  ⟨if c = '\t' then List.replicate width ' ' else [c], offset, c.utf8Size, width⟩

/-- The cells of a line from a byte offset and a column on. -/
def ofText (offset column : Nat) : Text → List Cell
  | [] => []
  | c :: t =>
    ofChar offset column c :: ofText (offset + c.utf8Size) (column + widthAt column c) t

/-- The place behind a line, on which a caret may stand. -/
def behind (t : Text) : Cell := ⟨[], t.byteSize, 1, 1⟩

/-- A cell lies within a range of byte offsets, if only in part. -/
def within (range : Span) (cell : Cell) : Bool :=
  range.start < cell.offset + cell.size && cell.offset < range.stop

/-- What stands under a cell: carets within the range, blanks in front of it, and nothing
behind it. -/
def under (range : Span) (cell : Cell) : Text :=
  if cell.within range then List.replicate cell.width '^'
  else if cell.offset < range.stop then List.replicate cell.width ' '
  else []

end Cell

/-- The cells of a line as it is shown. -/
def SourceLine.cells (line : SourceLine) : List Cell := Cell.ofText 0 0 line.shown

/-! ## The margin -/

namespace Margin

/-- The margin of a row without a line number, as wide as one with it. -/
def blank (width : Nat) (border : Text) : List Piece :=
  .text (List.replicate width ' ' ++ [' ']) :: Piece.styled .margin border

/-- The margin of a row that shows a line. -/
def numbered (width number : Nat) : List Piece :=
  Piece.styled .margin (Text.padLeft width (Text.ofNat number)) ++ [.text [' ']]
    ++ Piece.styled .margin ['│']

/-- The place where a label begins: file, line and column. -/
def place (name : Text) (line : SourceLine) (label : Label) : Text :=
  name ++ [':'] ++ Text.ofNat line.number ++ [':'] ++ Text.ofNat (line.column label.span.start)

/-- The row that names the place. -/
def placeRow (width : Nat) (name : Text) (line : SourceLine) (label : Label) : List Piece :=
  blank width ['┌', '─'] ++ [.text ([' '] ++ place name line label ++ ['\n'])]

end Margin

/-! ## Snippets -/

/-- What a snippet shows: a label in a line of a file. -/
structure Snippet where
  severity : Severity
  /-- The name of the file. -/
  name : Text
  line : SourceLine
  label : Label

namespace Snippet

/-- The range of the label in bytes of its line. It is never empty. -/
def range (s : Snippet) : Span :=
  let start := s.label.span.start - s.line.start
  ⟨start, max (s.label.span.stop - s.line.start) (start + 1)⟩

/-- The width of the line number. -/
def width (s : Snippet) : Nat := (Text.ofNat s.line.number).length

/-- A row of nothing but the border. -/
def borderRow (s : Snippet) : List Piece := Margin.blank s.width ['│'] ++ [.text ['\n']]

/-- The row that shows the source. -/
def sourceRow (s : Snippet) : List Piece :=
  Margin.numbered s.width s.line.number ++ [.text [' ']]
    ++ Piece.highlight (.label s.severity) false
        (s.line.cells.map fun cell => (cell.within s.range, cell.shown))
    ++ [.text ['\n']]

/-- The row of carets with the remark. -/
def caretRow (s : Snippet) : List Piece :=
  Margin.blank s.width ['│'] ++ [.text [' ']]
    ++ Piece.highlight (.label s.severity) false
        ((s.line.cells ++ [Cell.behind s.line.shown]).map fun cell =>
          (cell.within s.range, cell.under s.range))
    ++ [.text [' ']] ++ Piece.styled (.label s.severity) s.label.remark ++ [.text ['\n']]

/-- All rows of a snippet. -/
def rows (s : Snippet) : List Piece :=
  Margin.placeRow s.width s.name s.line s.label ++ s.borderRow ++ s.sourceRow ++ s.caretRow

end Snippet

end LosslessScanner
