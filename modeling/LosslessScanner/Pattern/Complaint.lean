import LosslessScanner.Text.Basic

/-!
# What can be wrong with a pattern

A pattern that cannot be understood is answered by a complaint: what is wrong,
and which stretch of the pattern it is about. Some faults point at a second
stretch, the one that the first clashes with. A complaint is shown below the
pattern, with carets under what it is about; a pattern of several lines is shown
with numbered lines between two rules.
-/

namespace LosslessScanner.Pattern

/-- A stretch of a pattern from one position up to another, which count characters. -/
structure Extent where
  start : Nat
  stop : Nat
  deriving DecidableEq

/-- What can be wrong. -/
inductive Fault where
  | escapeUnfinished
  | escapeUnknown
  | backreference
  | hexMissing
  | hexDigit
  | hexNoCharacter
  | propertyName
  | boundaryUnclosed
  | boundaryUnknown
  | boundaryUnfinished
  | setUnclosed
  | setEscape
  | rangeBound
  | rangeReversed
  | groupUnclosed
  | groupUnopened
  | lookAround
  | nameMissing
  | nameCharacter
  | nameRepeated
  | nameUnfinished
  | flagUnknown
  | flagRepeated
  | flagUnfinished
  | negationRepeated
  | negationDangling
  | nothingToRepeat
  | countUnclosed
  | countMissing
  | countTooLarge
  | countReversed
  | nestedTooDeep
  | beyondAscii
  | noText
  | propertyUnknown
  | propertyValueUnknown
  | shorthandUnavailable
  | caseUnavailable
  deriving DecidableEq

/-- The deepest nesting of groups, sets and repetitions that is read. -/
def nestLimit : Nat := 250

/-- The wording of a fault. -/
def Fault.message : Fault → Text
  | escapeUnfinished =>
    "incomplete escape sequence, reached end of pattern prematurely".toList
  | escapeUnknown => "unrecognized escape sequence".toList
  | backreference => "backreferences are not supported".toList
  | hexMissing => "hexadecimal literal empty".toList
  | hexDigit => "invalid hexadecimal digit".toList
  | hexNoCharacter => "hexadecimal literal is not a Unicode scalar value".toList
  | propertyName => "invalid Unicode character class".toList
  | boundaryUnclosed =>
    "special word boundary assertion is either unclosed or contains an invalid character".toList
  | boundaryUnknown =>
    ("unrecognized special word boundary assertion, ".toList
      ++ "valid choices are: start, end, start-half or end-half".toList)
  | boundaryUnfinished =>
    ("found either the beginning of a special word boundary or a bounded repetition ".toList
      ++ "on a \\b with an opening brace, but no closing brace".toList)
  | setUnclosed => "unclosed character class".toList
  | setEscape => "invalid escape sequence found in character class".toList
  | rangeBound => "invalid range boundary, must be a literal".toList
  | rangeReversed =>
    "invalid character class range, the start must be <= the end".toList
  | groupUnclosed => "unclosed group".toList
  | groupUnopened => "unopened group".toList
  | lookAround =>
    "look-around, including look-ahead and look-behind, is not supported".toList
  | nameMissing => "empty capture group name".toList
  | nameCharacter => "invalid capture group character".toList
  | nameRepeated => "duplicate capture group name".toList
  | nameUnfinished => "unclosed capture group name".toList
  | flagUnknown => "unrecognized flag".toList
  | flagRepeated => "duplicate flag".toList
  | flagUnfinished => "expected flag but got end of regex".toList
  | negationRepeated => "flag negation operator repeated".toList
  | negationDangling => "dangling flag negation operator".toList
  | nothingToRepeat => "repetition operator missing expression".toList
  | countUnclosed => "unclosed counted repetition".toList
  | countMissing => "repetition quantifier expects a valid decimal".toList
  | countTooLarge => "decimal literal invalid".toList
  | countReversed =>
    "invalid repetition count range, the start must be <= the end".toList
  | nestedTooDeep =>
    "exceed the maximum number of nested parentheses/brackets (".toList
      ++ Text.ofNat nestLimit ++ [')']
  | beyondAscii => "Unicode not allowed here".toList
  | noText => "pattern can match invalid UTF-8".toList
  | propertyUnknown => "Unicode property not found".toList
  | propertyValueUnknown => "Unicode property value not found".toList
  | shorthandUnavailable =>
    ("Unicode-aware Perl class not found ".toList
      ++ "(make sure the unicode-perl feature is enabled)".toList)
  | caseUnavailable =>
    ("Unicode-aware case insensitivity matching is not available ".toList
      ++ "(make sure the unicode-case feature is enabled)".toList)

/-- A fault and where it is. -/
structure Complaint where
  fault : Fault
  extent : Extent
  /-- What it clashes with. -/
  other : Option Extent := none

namespace Complaint

/-- The line and the column of a position, both counted from nought. -/
def locate (pattern : Text) (position : Nat) : Nat × Nat :=
  let before := pattern.take position
  (before.count '\n', (before.reverse.takeWhile (· ≠ '\n')).length)

/-- The lines of a pattern. A carriage return in front of a line feed belongs to the line end,
and there is no line behind the last line feed. -/
def lines (pattern : Text) : List Text :=
  let parts := pattern.splitOn '\n'
  let ended := parts.dropLast.map fun l => if l.getLast? = some '\r' then l.dropLast else l
  match parts.getLast? with
  | none | some [] => ended
  | some l => ended ++ [l]

/-- The stretches that a complaint is about, from left to right. -/
def extents (c : Complaint) : List Extent :=
  match c.other with
  | none => [c.extent]
  | some o =>
    if o.start < c.extent.start || (o.start = c.extent.start && o.stop ≤ c.extent.stop) then
      [o, c.extent]
    else [c.extent, o]

/-- A stretch that ends in the line in which it begins. -/
def isWithinLine (pattern : Text) (e : Extent) : Bool :=
  (locate pattern e.start).1 == (locate pattern e.stop).1

/-- Carets under stretches given by their first column and their width, from a column on. An
empty stretch has one caret. -/
def carets (column : Nat) : List (Nat × Nat) → Text
  | [] => []
  | (start, width) :: rest =>
    List.replicate (start - column) ' ' ++ List.replicate (max 1 width) '^'
      ++ carets (max column start + max 1 width) rest

/-- The line of carets under a line of the pattern, if there is one. -/
def notes (pattern : Text) (margin line : Nat) (c : Complaint) : Text :=
  let here := c.extents.filter fun e =>
    isWithinLine pattern e && (locate pattern e.start).1 == line
  if here = [] then []
  else
    List.replicate margin ' '
      ++ carets 0 (here.map fun e => ((locate pattern e.start).2, e.stop - e.start)) ++ ['\n']

/-- A stretch over several lines, in words. -/
def lineNote (pattern : Text) (e : Extent) : Text :=
  let (startLine, startColumn) := locate pattern e.start
  let (stopLine, stopColumn) := locate pattern e.stop
  "on line ".toList ++ Text.ofNat (startLine + 1) ++ " (column ".toList
    ++ Text.ofNat (startColumn + 1) ++ ") through line ".toList ++ Text.ofNat (stopLine + 1)
    ++ " (column ".toList ++ Text.ofNat stopColumn ++ [')']

/-- A complaint below its pattern. -/
def layout (pattern : Text) (c : Complaint) : Text :=
  let head := "regex parse error:\n".toList
  let foot := "error: ".toList ++ c.fault.message
  if pattern.contains '\n' then
    let digits := (Text.ofNat (pattern.count '\n' + 1)).length
    let rule := List.replicate 79 '~' ++ ['\n']
    let body := (lines pattern).zipIdx.flatMap fun (l, i) =>
      Text.padLeft digits (Text.ofNat (i + 1)) ++ [':', ' '] ++ l ++ ['\n']
        ++ notes pattern (digits + 2) i c
    let wide := c.extents.filter fun e => !isWithinLine pattern e
    let wideNotes :=
      if wide = [] then [] else Text.joinLines (wide.map (lineNote pattern)) ++ ['\n']
    head ++ rule ++ body ++ rule ++ wideNotes ++ foot
  else
    head ++ List.replicate 4 ' ' ++ pattern ++ ['\n'] ++ notes pattern 4 0 c ++ foot

end Complaint

end LosslessScanner.Pattern
