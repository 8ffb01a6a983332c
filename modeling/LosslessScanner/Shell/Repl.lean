import LosslessScanner.Dump
import LosslessScanner.Text.Utf8

/-!
# The line reader

Lines are read one by one. A line that is one of a few commands, whatever blanks
are around it, is obeyed; any other line is echoed token by token. A line ends
at a line feed, and a carriage return before the line feed belongs to the end of
the line; the last line need not have a line feed. Bytes of a line that are no
text end the session.
-/

namespace LosslessScanner.Repl

/-! ## Lines -/

/-- Bytes cut up behind each line feed. -/
def chunks : List UInt8 → List (List UInt8)
  | [] => []
  | b :: bs =>
    if b = 10 then [b] :: chunks bs
    else match chunks bs with
      | [] => [[b]]
      | chunk :: more => (b :: chunk) :: more

/-- A line without its end. -/
def withoutEnd (t : Text) : Text :=
  match t.reverse with
  | '\n' :: '\r' :: rest => rest.reverse
  | '\n' :: rest => rest.reverse
  | _ => t

/-- The line that a chunk of bytes holds. -/
def line? (chunk : List UInt8) : Option Text :=
  (Text.ofUtf8? ⟨chunk.toArray⟩).map withoutEnd

/-! ## Commands -/

/-- What a line asks for. -/
inductive Wish where
  | quit
  | help
  | vocabulary
  /-- The tokens of the line. -/
  | echo (line : Text)
  deriving DecidableEq

/-- Commands are told without the blanks around them; a line to echo keeps its blanks. -/
def Wish.ofLine (line : Text) : Wish :=
  let word := Text.trim isBlank line
  if word = ":quit".toList ∨ word = ":q".toList then quit
  else if word = ":help".toList ∨ word = ":h".toList then help
  else if word = ":keywords".toList then vocabulary
  else echo line

/-- What is shown before each line. -/
def prompt : Text := ['>', ' ']

/-- The list of commands. -/
def helpText : Text :=
  Text.joinLines
    ["REPL commands:".toList,
     "  :quit, :q    Exit the REPL".toList,
     "  :help, :h    Show this help message".toList,
     "  :keywords    Show the keyword and punctuation tables".toList,
     [],
     "Any other line is scanned and its tokens are echoed.".toList]

/-- The answer to a line; none to a line that ends the session. -/
def answer? : Wish → Option Text
  | .quit => none
  | .help => some (helpText ++ ['\n'])
  | .vocabulary => some (Vocabulary.describe ++ ['\n'])
  | .echo line => some (LosslessScanner.echo line ++ ['\n'])

end LosslessScanner.Repl
