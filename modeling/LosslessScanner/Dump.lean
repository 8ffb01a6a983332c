import LosslessScanner.Scan.Basic

/-!
# Dumps of tokens

A dump shows the tokens of a source to a person or to another program. The text
form has one numbered line for each token; the JSON form is an array of objects,
laid out over lines and indented by two blanks. Either can leave out trivia, and
numbers count what is shown. An echo is the short form for one line of input:
the tokens in a row, each followed by a comma.
-/

namespace LosslessScanner

/-- The form of a dump. -/
inductive Dump.Format where
  | text
  | json
  deriving DecidableEq

/-- How to dump. -/
structure Dump where
  format : Dump.Format
  /-- Blanks and comments are shown. -/
  trivia : Bool

namespace Dump

/-- The tokens that a dump shows. -/
def select (d : Dump) (ts : List LocatedToken) : List LocatedToken :=
  ts.filter fun t => d.trivia || !t.token.kind.isTrivia

/-! ## Text -/

/-- One line: the number, the token, and its span. -/
def textLine (n : Nat) (t : LocatedToken) : Text :=
  Text.padLeft 4 (Text.ofNat n) ++ [':', ' '] ++ t.token.display ++ [' ', '@', ' ']
    ++ Text.ofNat t.span.start ++ ['.', '.'] ++ Text.ofNat t.span.stop

/-- The lines, numbered from zero. -/
def textForm (ts : List LocatedToken) : Text :=
  Text.joinLines (ts.mapIdx textLine)

/-! ## JSON -/

/-- A line of a layout, set in by so many steps of two blanks. -/
def indented (depth : Nat) (t : Text) : Text := List.replicate (2 * depth) ' ' ++ t

/-- A field of an object: its name and its value. -/
def field (name : String) (value : Text) : Text :=
  Text.jsonString name.toList ++ [':', ' '] ++ value

/-- The lines of one element of the array. The comma after it is put in by the caller. -/
def jsonElement (t : LocatedToken) : Text :=
  Text.joinLines
    [indented 1 ['\x7b'],
     indented 2 (field "token" ['\x7b']),
     indented 3 (field "kind" (Text.jsonString t.token.kind.name) ++ [',']),
     indented 3 (field "contents" (Text.jsonString t.token.contents)),
     indented 2 ['\x7d', ','],
     indented 2 (field "span" ['\x7b']),
     indented 3 (field "start" (Text.ofNat t.span.start) ++ [',']),
     indented 3 (field "end" (Text.ofNat t.span.stop)),
     indented 2 ['\x7d'],
     indented 1 ['\x7d']]

/-- The array; one without elements stays on one line. -/
def jsonForm : List LocatedToken → Text
  | [] => ['[', ']']
  | ts => ['[', '\n'] ++ [',', '\n'].intercalate (ts.map jsonElement) ++ ['\n', ']']

/-- A dump of located tokens. -/
def render (d : Dump) (ts : List LocatedToken) : Text :=
  match d.format with
  | .text => textForm (d.select ts)
  | .json => jsonForm (d.select ts)

end Dump

/-- The tokens of a line in a row, each followed by a comma and a blank. -/
def echo (line : Text) : Text := (scan line).flatMap fun t => t.display ++ [',', ' ']

end LosslessScanner
