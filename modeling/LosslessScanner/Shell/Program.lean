import LosslessScanner.Log.Filter
import LosslessScanner.Session
import LosslessScanner.Shell.CommandLine
import LosslessScanner.Shell.Repl

/-!
# What the program does

A run is a sequence of events, each of which writes something: to the output, to
the error output, or to the log, which shares the error output. Its end is an
exit code. Events are computed from what is read, the bytes of a file or of the
input, and nothing is written here; `Outcome` tells what comes out at both ends
if the records that a filter shows are written among the rest in order.
-/

namespace LosslessScanner

/-- What is known of where the program writes to, and what it has to say of itself. -/
structure Console where
  /-- The output is a terminal. -/
  terminal : Bool := false
  /-- The value of `CLICOLOR_FORCE`, if it is set. -/
  force : Option Text := none
  /-- The value of `NO_COLOR`, if it is set. -/
  noColor : Option Text := none
  /-- The value of `CLICOLOR`, if it is set. -/
  color : Option Text := none
  /-- The pages of the manual. -/
  manual : Help → Text := fun _ => []

namespace Console

/-- The words that tell how a run has ended are styled. This can be forced. If it is not, the
output has to be a terminal, whichever end the word goes to, and nothing may speak against it. -/
def styles (c : Console) : Bool :=
  if c.force.any (· ≠ ['0']) then true
  else if c.noColor.isSome then false
  else c.terminal && c.color.all (· ≠ ['0'])

/-- A word, in the rendition that it has if words are styled. -/
def word (c : Console) (parameters : String) (t : Text) : Text :=
  if c.styles then Piece.rendition parameters ++ t ++ Piece.rendition "0" else t

/-- The word in front of a complaint. -/
def error (c : Console) : Text := c.word "1;31" "error".toList

/-- The word for a check that passes. -/
def success (c : Console) : Text := c.word "1;32" "success".toList

end Console

/-- Something written. -/
inductive Event where
  | output (t : Text)
  | complaint (t : Text)
  | log (r : Log.Record)

/-- What a run writes, and its exit code. -/
structure Run where
  events : List Event
  code : Nat

namespace Run

/-- More events in front of a run. -/
def after (events : List Event) (r : Run) : Run := { r with events := events ++ r.events }

/-- A run that ends well. -/
def done (events : List Event) : Run := ⟨events, 0⟩

/-- A run that ends with a complaint. -/
def failed (console : Console) (reason : Text) : Run :=
  ⟨[.complaint (console.error ++ [':', ' '] ++ reason ++ ['\n'])], 1⟩

end Run

namespace Program

/-- A record of the program itself. -/
def note (level : Log.Level) (message : Text) : Event := .log ⟨level, .program, message⟩

section Commands

variable (console : Console)

/-- Dumps the tokens of a file, given the outcome of reading it. -/
def tokens (path : Text) (dump : Dump) (contents : Except ReadFailure ByteArray) : Run :=
  Run.after [note .info ("Scanning ".toList ++ Text.quoted path)] <|
    match Session.ofFile path contents with
    | .error p => Run.failed console p.message
    | .ok s =>
      Run.done <|
        .log s.loaded :: s.scanLog.map .log
          ++ [note .debug (Text.ofNat s.tokens.length ++ " token(s)".toList),
              .output (dump.render s.tokens ++ ['\n'])]

/-- Checks a file, given the outcome of reading it. Its diagnostics are complaints; it passes if
there are no errors among them. -/
def check (path : Text) (color : Bool) (contents : Except ReadFailure ByteArray) : Run :=
  Run.after [note .info ("Checking ".toList ++ Text.quoted path)] <|
    match Session.ofFile path contents with
    | .error p => Run.failed console p.message
    | .ok s =>
      let (shown, failure) := s.check.emit color
      Run.after (.log s.loaded :: s.checkLog.map .log ++ [.complaint shown]) <|
        match failure, s.check.report.errors.length with
        | some p, _ => Run.failed console p.message
        | none, 0 => Run.done [.output (console.success ++ ": No errors found\n".toList)]
        | none, n => Run.failed console (Text.ofNat n ++ " lexical error(s) in ".toList ++ path)

/-- The records that a line leaves behind. -/
def turnLog : Repl.Wish → List Log.Record
  | .echo line => Log.reading 0 line
  | .quit | .help | .vocabulary => []

/-- What a line of input, given in bytes, brings about: events, and the exit code if the session
ends with it. -/
def turn (chunk : List UInt8) : List Event × Option Nat :=
  match Repl.line? chunk with
  | none =>
    let r := Run.failed console
      ("failed to read from stdin: ".toList ++ ReadFailure.notUtf8.message)
    (r.events, some r.code)
  | some line =>
    let wish := Repl.Wish.ofLine line
    match Repl.answer? wish with
    | none => ([], some 0)
    | some answer => ((turnLog wish).map .log ++ [.output answer], none)

/-- What the end of the input brings about after the prompt. -/
def farewell : Event := .output ['\n']

/-- Reads lines, given in bytes, and answers each after a prompt. -/
def repl : List (List UInt8) → Run
  | [] => Run.done [.output Repl.prompt, farewell]
  | chunk :: chunks =>
    Run.after [.output Repl.prompt] <|
      match turn console chunk with
      | (events, some code) => ⟨events, code⟩
      | (events, none) => Run.after events (repl chunks)

end Commands

/-- What the program is told from outside. -/
structure Environment where
  /-- The filter for the log, if one is set. -/
  logFilter : Option Text
  /-- The terminal can show colors. -/
  colorTerminal : Bool
  /-- What reading a file gives. -/
  read : Text → Except ReadFailure ByteArray
  /-- The standard input. -/
  input : List UInt8

/-- Diagnostics are colored. -/
def colors (env : Environment) : ColorMode → Bool
  | .auto => env.colorTerminal
  | .always => true
  | .never => false

/-- Does what is asked for. A command line that cannot be understood has an exit code of its
own. -/
def run (console : Console) (env : Environment) : Request → Run
  | .misuse => ⟨[], 2⟩
  | .version => Run.done [.output "objkaleidoscope 0.1.0\n".toList]
  | .help page => Run.done [.output (console.manual page)]
  | .run i =>
    match i.command with
    | .repl => repl console (Repl.chunks env.input)
    | .tokens path dump => tokens console path dump (env.read path)
    | .check path => check console path (colors env i.color) (env.read path)

/-- The filter for the log, and what cannot be read in it. -/
def logFilter (env : Environment) : Log.Filter × List Text :=
  Log.Filter.parse (env.logFilter.getD Log.Filter.default)

/-- A record is shown. A verbose run leaves out the finest level, whatever the filter says. -/
def shown (filter : Log.Filter) (request : Request) (r : Log.Record) : Bool :=
  let verbose := match request with
    | .run i => i.verbose
    | .version | .help _ | .misuse => false
  filter.shows r && (!verbose || r.level.rank ≤ Log.Level.debug.rank)

/-- The warning about a part of the filter that cannot be read. -/
def filterWarning (w : Text) : Event :=
  .complaint ("warning: ".toList ++ w ++ ", ignoring it\n".toList)

end Program

/-- What comes out of a run. -/
structure Outcome where
  code : Nat
  output : Text
  complaints : Text

namespace Outcome

/-- What an event writes to the output. -/
def outputOf : Event → Text
  | .output t => t
  | .complaint _ | .log _ => []

/-- What an event writes to the error output. -/
def complaintOf (time : Text) (shown : Log.Record → Bool) : Event → Text
  | .output _ => []
  | .complaint t => t
  | .log r => if shown r then r.line time else []

/-- What comes out of a run, with every record marked with the same time. -/
def ofRun (time : Text) (shown : Log.Record → Bool) (r : Run) : Outcome :=
  ⟨r.code, r.events.flatMap outputOf, r.events.flatMap (complaintOf time shown)⟩

end Outcome

namespace Program

/-- What comes out of the program, given its arguments. If nothing is said of the console, both
ends are pipes. -/
def outcome (time : Text) (env : Environment) (args : List Text) (console : Console := {}) :
    Outcome :=
  let request := CommandLine.parse args
  let (filter, warnings) := logFilter env
  Outcome.ofRun time (shown filter request)
    (Run.after (warnings.map filterWarning) (run console env request))

end Program

end LosslessScanner
