import LosslessScanner.Scan.Cursor
import LosslessScanner.Text.Plain

/-!
# The log

What is done is recorded in lines, each with a level and the part of the program
that wrote it. Reading a token leaves a line at the finest level; the steps of a
run leave coarser ones. Records are values: what a step records is a function of
what it is given, and whether anyone sees it is settled later, by a `Filter`.
-/

namespace LosslessScanner.Log

/-- How much a record matters, from the most to the least. -/
inductive Level where
  | error
  | warn
  | info
  | debug
  | trace
  deriving DecidableEq

namespace Level

/-- The place of a level in that order. -/
def rank : Level → Nat
  | error => 1
  | warn => 2
  | info => 3
  | debug => 4
  | trace => 5

def name : Level → Text
  | error => "ERROR".toList
  | warn => "WARN".toList
  | info => "INFO".toList
  | debug => "DEBUG".toList
  | trace => "TRACE".toList

def all : List Level := [error, warn, info, debug, trace]

end Level

/-- The part of the program that a record comes from. -/
inductive Origin where
  | program
  | session
  | scanner
  deriving DecidableEq

/-- The name under which records of that part are filed. -/
def Origin.name : Origin → Text
  | program => "objkaleidoscope".toList
  | session => "objkaleidoscope::driver".toList
  | scanner => "objkaleidoscope::lexer::lexer".toList

/-- One line of the log. -/
structure Record where
  level : Level
  origin : Origin
  message : Text

/-- A record by itself: its level and its message. -/
def Record.brief (r : Record) : Text := r.level.name ++ [' '] ++ r.message

/-- A message in a log of lines: its later lines are set in by four blanks. -/
def hanging (message : Text) : Text :=
  message.flatMap fun c => if c = '\n' then '\n' :: List.replicate 4 ' ' else [c]

/-- A record in a log that many parts write to. The level is padded to the longest one. The
line is free of terminal commands; a command that a message leaves open swallows its end. -/
def Record.line (time : Text) (r : Record) : Text :=
  Text.plain <|
    ['['] ++ time ++ [' '] ++ Text.padRight 5 r.level.name ++ [' '] ++ r.origin.name ++ [']', ' ']
      ++ hanging r.message ++ ['\n']

/-! ## Reading tokens -/

/-- The record of one token read at a byte offset. -/
def read (t : Token) (position : Nat) : Record :=
  ⟨.trace, .scanner,
    "read ".toList ++ t.display ++ " at ".toList ++ Text.ofNat position⟩

/-- The records of reading a text that starts at a byte offset to its end, the mark included. -/
def reading (start : Nat) (source : Text) : List Record :=
  (scanAt start source).map fun t => read t.token t.span.start

/-- What a step of a cursor records: one line for a token read, and the whole remainder where
the answer takes scanning it. -/
def ofStep (c : Cursor) : Cursor.Operation → List Record
  | .read | .nextToken | .next => [read c.peek c.position]
  | .tokens | .significant | .count => reading c.position c.remainder
  | .peek | .remainder | .source | .atEnd | .sizeHint => []

end LosslessScanner.Log
