import LosslessScanner.Text.Basic

/-!
# Text without terminal commands

A terminal does not show every character it is sent. Control codes move its
cursor or ring its bell, and the escape character begins a command that runs on
over the characters behind it. `plain` leaves out what a terminal would take as
a command and keeps what it would show, so that a text from outside cannot take
hold of the terminal it is printed on.

Tabs, line feeds, form feeds and carriage returns are kept, and they also cut a
command short, unless it is one that carries a string. Such a command swallows
everything up to its end, and if it has none, everything there is.
-/

namespace LosslessScanner.Text

/-- What a terminal is in the middle of. -/
inductive TerminalState where
  /-- Text that it shows. -/
  | text
  /-- A command of which only the escape character has come. -/
  | escape
  /-- A short command, up to its last character. -/
  | short
  /-- A control sequence, begun by `ESC [`, with its parameters. -/
  | sequence
  /-- The head of a device control string, begun by `ESC P`. -/
  | device
  /-- A string that only its terminator ends. -/
  | string
  /-- A system command, begun by `ESC ]`, which a bell ends as well. -/
  | system
  deriving DecidableEq

namespace TerminalState

/-- Control codes that lay out a text. -/
def isLayout (c : Char) : Bool := c = '\t' || c = '\n' || c = '\x0c' || c = '\r'

/-- The string terminator, which is looked for among the bytes of a text. Characters such as
U+201C, in whose UTF-8 form that byte occurs, end a string as well. -/
def endsString (c : Char) : Bool := (String.utf8EncodeChar c).contains 0x9c

/-- The state that the character after the escape character leads to. -/
def afterEscape (c : Char) : TerminalState :=
  if c = '[' then sequence
  else if c = ']' then system
  else if c = 'P' then device
  else if c = 'X' || c = '^' || c = '_' then string
  else if ' ' ≤ c && c ≤ '/' then short
  else if '0' ≤ c && c ≤ '~' then text
  else escape

/-- The state after a character that is not shown. -/
def after (s : TerminalState) (c : Char) : TerminalState :=
  if c = '\x1b' then escape
  else if c = '\x18' || c = '\x1a' then text
  else match s with
    | text => text
    | escape => afterEscape c
    | short => if '0' ≤ c && c ≤ '~' then text else short
    | sequence => if '@' ≤ c && c ≤ '~' then text else sequence
    | device => if '@' ≤ c && c ≤ '~' then string else device
    | string => if endsString c then text else string
    | system => if c = '\x07' then text else system

/-- A character is shown. -/
def shows : TerminalState → Char → Bool
  | text, c => isLayout c || (' ' ≤ c && c != '\x7f')
  | escape, c | short, c | sequence, c => isLayout c
  | device, _ | string, _ | system, _ => false

/-- What is shown of a text, begun in a state. Whatever is shown ends a command. -/
def shown : TerminalState → Text → Text
  | _, [] => []
  | s, c :: t => if s.shows c then c :: shown text t else shown (s.after c) t

end TerminalState

/-- What a terminal shows of a text. -/
def plain (t : Text) : Text := TerminalState.shown .text t

end LosslessScanner.Text
