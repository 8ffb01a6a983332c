import LosslessScanner.Diagnostic.Basic

/-!
# Painted text

What is shown to a person is a sequence of pieces: stretches of text, and
between them the commands that set a style or go back to the plain one. Written
without color the commands are left out; written with color each becomes an
escape sequence of the terminal. So color can only add, never change, what is
written.
-/

namespace LosslessScanner

/-- What a stretch of text is set off for. -/
inductive Style where
  /-- The severity at the front of a diagnostic. -/
  | heading (severity : Severity)
  /-- The message after it. -/
  | message
  /-- The place that a label marks, the carets under it, and the remark. -/
  | label (severity : Severity)
  /-- Line numbers and the border beside the source. -/
  | margin
  deriving DecidableEq

/-- Text, or a command to the terminal. -/
inductive Piece where
  | text (t : Text)
  | set (style : Style)
  | reset
  deriving DecidableEq

namespace Piece

/-- An escape sequence that selects a rendition. -/
def rendition (parameters : String) : Text := ['\x1b', '['] ++ parameters.toList ++ ['m']

/-- The rendition of a style. -/
def renditionOf : Style → Text
  | .heading .error => rendition "1" ++ rendition "38;5;9"
  | .heading .warning => rendition "1" ++ rendition "38;5;11"
  | .message => rendition "1"
  | .label .error => rendition "31"
  | .label .warning => rendition "33"
  | .margin => rendition "34"

/-- A piece without color. -/
def plain : Piece → Text
  | text t => t
  | set _ => []
  | reset => []

/-- A piece with color. A style is set from scratch, so what was set before does not matter. -/
def colored : Piece → Text
  | text t => t
  | set style => rendition "0" ++ renditionOf style
  | reset => rendition "0"

/-- A sequence of pieces, with color or without. -/
def write (color : Bool) (ps : List Piece) : Text := ps.flatMap (if color then colored else plain)

@[simp] theorem write_append (color : Bool) (ps qs : List Piece) :
    write color (ps ++ qs) = write color ps ++ write color qs := by
  simp [write]

/-- Text in a style of its own. -/
def styled (style : Style) (t : Text) : List Piece := [set style, text t, reset]

/-- Chunks of text of which some are marked. The style is set where marked chunks begin and
given up where they end; `on` tells whether it is set at the front. -/
def highlight (style : Style) : Bool → List (Bool × Text) → List Piece
  | on, [] => if on then [reset] else []
  | false, (true, t) :: rest => set style :: text t :: highlight style true rest
  | true, (false, t) :: rest => reset :: text t :: highlight style false rest
  | on, (_, t) :: rest => text t :: highlight style on rest

end Piece

end LosslessScanner
