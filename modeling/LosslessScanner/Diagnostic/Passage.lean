import LosslessScanner.Diagnostic.Snippet

/-!
# A label over several lines

A label that ends in another line than it begins in is drawn as a bracket
between the margin and the source. The bracket opens in the line that the label
begins in, goes on beside the lines in between, and closes in the line that the
label ends in. A stroke under the first line leads from the bracket to where the
label begins, and one under the last line to where it ends, with the remark
behind it. The first stroke is left out if nothing but blanks stands in front of
the label in its line: then the bracket opens in the source row itself.

Of the lines in between only some are kept, three behind the first and one in
front of the last. Where one line is left out between two that are kept, it is
shown after all; where there are more, a row with a dot stands for them.

Nothing keeps a label from ending in front of where it begins. Then the line
with the end comes first, and the lines in between have no bracket beside them.
-/

namespace LosslessScanner

/-- How a label over several lines marks one of them. -/
inductive Mark where
  /-- It begins in the line, at a byte offset. -/
  | opening (start : Nat)
  /-- It goes through the line. -/
  | through
  /-- It ends in the line, at a byte offset. -/
  | closing (stop : Nat)
  deriving DecidableEq

/-- A cell of the line belongs to the label. -/
def Mark.covers (cell : Cell) : Mark → Bool
  | opening start => start ≤ cell.offset
  | through => true
  | closing stop => cell.offset + cell.size ≤ stop

/-- Nothing but blanks stands in front of a byte offset in what is shown of a line. -/
def SourceLine.isFront (line : SourceLine) (offset : Nat) : Bool :=
  offset ≤ Text.byteSize (line.shown.takeWhile isBlank)

/-- What a passage shows: a label over several lines of a file. -/
structure Passage where
  severity : Severity
  /-- The name of the file. -/
  name : Text
  /-- All lines of the file. -/
  lines : List SourceLine
  /-- The line that the label begins in. -/
  first : SourceLine
  /-- The line that it ends in. -/
  last : SourceLine
  label : Label

namespace Passage

variable (p : Passage)

/-- The mark of a line, if it has one. -/
def mark? (line : SourceLine) : Option Mark :=
  if line.number = p.first.number then some (.opening (p.label.span.start - p.first.start))
  else if line.number = p.last.number then some (.closing (p.label.span.stop - p.last.start))
  else if p.first.number < line.number ∧ line.number < p.last.number then some .through
  else none

/-- The number of lines that are kept behind the first. -/
def linesBehind : Nat := 3

/-- The number of lines that are kept in front of the last. -/
def linesInFront : Nat := 1

/-- A line is kept. -/
def isKept (line : SourceLine) : Bool :=
  match p.mark? line with
  | some (.opening _) | some (.closing _) => true
  | some .through =>
    line.number - p.first.number ≤ linesBehind || p.last.number - line.number ≤ linesInFront
  | none => false

/-- The width of the widest line number. -/
def width : Nat := (Text.ofNat (max p.first.number p.last.number)).length

/-! ## The bracket -/

/-- A stroke of the bracket, with a blank in front of it. -/
def stroke (t : Text) : List Piece := .text [' '] :: Piece.styled (.label p.severity) t

/-- The place of a stroke where there is none. -/
def noStroke : List Piece := [.text [' ', ' ']]

/-- The bracket in a row that shows a line. -/
def bracket (line : SourceLine) : List Piece :=
  match p.mark? line with
  | some (.opening start) => if line.isFront start then p.stroke ['╭'] else noStroke
  | some .through | some (.closing _) => p.stroke ['│']
  | none => noStroke

/-- The bracket in a row behind one that shows a line. -/
def bracketBehind (line : SourceLine) : List Piece :=
  match p.mark? line with
  | some .through | some (.closing _) => p.stroke ['│']
  | some (.opening _) | none => noStroke

/-- A line as wide as cells are. -/
def rule (cells : List Cell) : Text := cells.flatMap fun cell => List.replicate cell.width '─'

/-! ## Rows -/

/-- A row of nothing but the border. -/
def borderRow : List Piece := Margin.blank p.width ['│'] ++ noStroke ++ [.text ['\n']]

/-- The row that shows a line. -/
def sourceRow (line : SourceLine) : List Piece :=
  Margin.numbered p.width line.number ++ p.bracket line ++ [.text [' ']]
    ++ Piece.highlight (.label p.severity) false
        (line.cells.map fun cell => ((p.mark? line).any (·.covers cell), cell.shown))
    ++ [.text ['\n']]

/-- The row that leads from the bracket to an end of the label. -/
def endRow (corner : Char) (t : Text) : List Piece :=
  Margin.blank p.width ['│'] ++ p.stroke [corner] ++ Piece.styled (.label p.severity) t
    ++ [.text ['\n']]

/-- The row under a line, if an end of the label asks for one. -/
def caretRow (line : SourceLine) : List Piece :=
  match p.mark? line with
  | some (.opening start) =>
    if line.isFront start then []
    else p.endRow '╭' (rule (line.cells.takeWhile (·.offset ≤ start)) ++ ['^'])
  | some (.closing stop) =>
    p.endRow '╰' (rule (line.cells.takeWhile (·.offset < stop)) ++ ['^', ' '] ++ p.label.remark)
  | some .through | none => []

/-- The rows for a line. -/
def lineRows (line : SourceLine) : List Piece := p.sourceRow line ++ p.caretRow line

/-- The row that stands for lines left out behind a line. -/
def breakRow (line : SourceLine) : List Piece :=
  Margin.blank p.width ['·'] ++ p.bracketBehind line ++ [.text ['\n']]

/-- The rows for what is left out between two lines. -/
def rowsBetween (line next : SourceLine) : List Piece :=
  match p.lines.filter fun l => line.number < l.number && l.number < next.number with
  | [] => []
  | [l] => p.lineRows l
  | _ => p.breakRow line

/-- The rows for lines that are kept, and for what is left out between them. -/
def rowsOf : List SourceLine → List Piece
  | [] => []
  | [line] => p.lineRows line
  | line :: next :: rest => p.lineRows line ++ p.rowsBetween line next ++ rowsOf (next :: rest)

/-- All rows of a passage. -/
def rows : List Piece :=
  Margin.placeRow p.width p.name p.first p.label ++ p.borderRow
    ++ p.rowsOf (p.lines.filter p.isKept)

end Passage

end LosslessScanner
