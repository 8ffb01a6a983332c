import LosslessScanner.Diagnostic.Passage

/-!
# Diagnostics with the source they are about

A diagnostic is a headline and, under it, what its label is on. There is one
file that labels can be on. A label in any other file cannot be shown, and
nothing is written of its diagnostic or of those behind it.
-/

namespace LosslessScanner

/-- The one file that labels can be shown in; its number is zero. -/
structure Listing where
  name : Text
  text : Text
  deriving DecidableEq

namespace Listing

/-- The rows for a label: a snippet if it begins and ends in one line, and a passage if not. -/
def rows (l : Listing) (severity : Severity) (label : Label) : List Piece :=
  let first := SourceLine.containing l.text label.span.start
  let last := SourceLine.containing l.text label.span.stop
  if first.number = last.number then Snippet.rows ⟨severity, l.name, first, label⟩
  else Passage.rows ⟨severity, l.name, SourceLine.all l.text, first, last, label⟩

/-- The line with the severity and the message. -/
def headline (d : Diagnostic) : List Piece :=
  [.set (.heading d.severity), .text d.severity.name, .set .message,
    .text ([':', ' '] ++ d.message), .reset, .text ['\n']]

/-- A diagnostic in pieces, with an empty line after it; none if its file is missing. -/
def render? (l : Listing) (d : Diagnostic) : Option (List Piece) :=
  match d.label with
  | none => some (headline d ++ [.text ['\n']])
  | some label =>
    if label.file = 0 then some (headline d ++ l.rows d.severity label ++ [.text ['\n']])
    else none

/-- What is reported when the file of a label is missing. -/
def missingFile : Problem := .file "failed to emit diagnostic: file missing".toList

/-- Diagnostics one after the other. The first one whose file is missing ends the output, and
nothing of it is written. -/
def render (l : Listing) : List Diagnostic → List Piece × Option Problem
  | [] => ([], none)
  | d :: ds =>
    match l.render? d with
    | none => ([], some missingFile)
    | some ps => let (rest, failure) := l.render ds; (ps ++ rest, failure)

end Listing

end LosslessScanner
