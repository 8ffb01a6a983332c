import LosslessScanner.Dump

/-!
# The command line

A command line has options, a command, and what belongs to the command. Two
options may stand on either side of the command; the others belong to one side.
Each side takes an option once, and what is said after the command overrides
what was said before it. Two hyphens end the options. Arguments are read from
left to right, and the first one that cannot stand where it does ends the
reading, as does a request for the version or for help. Help can be asked for by
an option on either side, which is about the command it stands behind, or by a
command of its own, with the name of the command that it is to be about.
-/

namespace LosslessScanner

/-- When diagnostics are colored. -/
inductive ColorMode where
  /-- If the terminal can show colors. -/
  | auto
  | always
  | never
  deriving DecidableEq

/-- What is to be done. -/
inductive Command where
  /-- Read lines and echo their tokens. -/
  | repl
  /-- Dump the tokens of a file. -/
  | tokens (path : Text) (dump : Dump)
  /-- Check a file. -/
  | check (path : Text)

/-- The names of the commands. -/
inductive CommandLine.Verb where
  | repl
  | tokens
  | check
  | help
  deriving DecidableEq

/-- A page of the manual. -/
structure Help where
  /-- The command that it is about; none if it is about the program. -/
  topic : Option CommandLine.Verb
  /-- It is the long form of the page. -/
  inFull : Bool
  deriving DecidableEq

/-- A command and the options that hold for all commands. -/
structure Invocation where
  command : Command
  verbose : Bool
  color : ColorMode

/-- What a command line asks for. -/
inductive Request where
  | run (invocation : Invocation)
  | version
  | help (page : Help)
  /-- It cannot be understood. -/
  | misuse

namespace CommandLine

/-! ## One side of the command -/

def Verb.ofText? (t : Text) : Option Verb :=
  if t = "repl".toList then some .repl
  else if t = "tokens".toList then some .tokens
  else if t = "check".toList then some .check
  else if t = "help".toList then some .help
  else none

/-- The options. -/
inductive Flag where
  | verbose
  | color
  | version
  | help (inFull : Bool)
  | format
  | noTrivia
  deriving DecidableEq

/-- Where an option may stand: `none` is in front of the command. -/
def Flag.allowed (side : Option Verb) : Flag → Bool
  | verbose | color | help _ => true
  | version => side = none
  | format | noTrivia => side = some .tokens

/-- The option with a long name. -/
def Flag.ofLong? (t : Text) : Option Flag :=
  if t = "verbose".toList then some .verbose
  else if t = "color".toList then some .color
  else if t = "version".toList then some .version
  else if t = "help".toList then some (.help true)
  else if t = "format".toList then some .format
  else if t = "no-trivia".toList then some .noTrivia
  else none

/-- The option with a short name. -/
def Flag.ofShort? : Char → Option Flag
  | 'v' => some .verbose
  | 'V' => some .version
  | 'h' => some (.help false)
  | _ => none

def colorMode? (t : Text) : Option ColorMode :=
  if t = "auto".toList then some .auto
  else if t = "always".toList then some .always
  else if t = "never".toList then some .never
  else none

def format? (t : Text) : Option Dump.Format :=
  if t = "text".toList then some .text
  else if t = "json".toList then some .json
  else none

/-- What one side of the command has said so far. -/
structure Given where
  verbose : Bool := false
  color : Option ColorMode := none
  format : Option Dump.Format := none
  noTrivia : Bool := false
  path : Option Text := none

/-- Why reading ends before the arguments do. -/
inductive Stop where
  | version
  | help (inFull : Bool)
  | misuse

/-- What is asked for if reading ends on one side. -/
def Stop.request (side : Option Verb) : Stop → Request
  | version => .version
  | help inFull => .help ⟨side, inFull⟩
  | misuse => .misuse

/-- Takes an option without a value into account. It may be given once. -/
def Given.flag (g : Given) : Flag → Except Stop Given
  | .verbose => if g.verbose then .error .misuse else .ok { g with verbose := true }
  | .noTrivia => if g.noTrivia then .error .misuse else .ok { g with noTrivia := true }
  | .version => .error .version
  | .help inFull => .error (.help inFull)
  | .color | .format => .error .misuse

/-- Takes an option with its value into account. It may be given once. -/
def Given.value (g : Given) (f : Flag) (t : Text) : Except Stop Given :=
  match f with
  | .color =>
    match g.color, colorMode? t with
    | none, some m => .ok { g with color := some m }
    | _, _ => .error .misuse
  | .format =>
    match g.format, format? t with
    | none, some m => .ok { g with format := some m }
    | _, _ => .error .misuse
  | .verbose | .noTrivia | .version | .help _ => .error .misuse

/-- The options that are given with a value. -/
def Flag.takesValue : Flag → Bool
  | color | format => true
  | verbose | noTrivia | version | help _ => false

/-- Takes a group of short options into account. -/
def Given.group (g : Given) (side : Option Verb) : Text → Except Stop Given
  | [] => .ok g
  | c :: rest =>
    match Flag.ofShort? c with
    | some f =>
      if f.allowed side then (g.flag f).bind fun g => g.group side rest
      else .error .misuse
    | none => .error .misuse

/-- Takes what is neither an option nor a command into account: the path of a file. -/
def Given.operand (g : Given) (side : Option Verb) (t : Text) : Except Stop Given :=
  match side, g.path with
  | some .tokens, none | some .check, none =>
    if t = [] then .error .misuse else .ok { g with path := some t }
  | _, _ => .error .misuse

/-! ## Words

Which arguments are options, and which are the values of options, does not depend
on the side they stand on. So arguments are first put together into words.
-/

/-- An argument, or two that belong together. -/
inductive Word where
  | flag (f : Flag)
  | setting (f : Flag) (value : Text)
  /-- Short options behind one hyphen. -/
  | group (letters : Text)
  /-- No option. -/
  | plain (t : Text)
  /-- Two hyphens. -/
  | separator
  /-- Anything behind two hyphens. It cannot be a command. -/
  | operand (t : Text)
  | unknown

/-- An argument by itself. -/
inductive Argument where
  | word (w : Word)
  /-- The next argument is the value. -/
  | awaiting (f : Flag)
  | endOfOptions

/-- A long option, its name and its value apart if they are joined by an equals sign. -/
def splitLong (t : Text) : Text × Option Text :=
  match t.dropWhile (· ≠ '=') with
  | [] => (t, none)
  | _ :: value => (t.takeWhile (· ≠ '='), some value)

/-- Tells what an argument is. A single hyphen is no option. -/
def Argument.ofText : Text → Argument
  | ['-', '-'] => endOfOptions
  | '-' :: '-' :: t =>
    match splitLong t with
    | (name, value) =>
      match Flag.ofLong? name, value with
      | none, _ => word .unknown
      | some f, some v => word (.setting f v)
      | some f, none => if f.takesValue then awaiting f else word (.flag f)
  | '-' :: c :: cs => word (.group (c :: cs))
  | t => word (.plain t)

/-- The words of a command line. -/
def words : List Text → List Word
  | [] => []
  | [a] =>
    match Argument.ofText a with
    | .word w => [w]
    | .awaiting _ => [.unknown]
    | .endOfOptions => [.separator]
  | a :: b :: rest =>
    match Argument.ofText a with
    | .word w => w :: words (b :: rest)
    | .awaiting f => .setting f b :: words rest
    | .endOfOptions => .separator :: (b :: rest).map .operand

/-- Takes a word that is no command into account. -/
def Given.take (g : Given) (side : Option Verb) : Word → Except Stop Given
  | .flag f => if f.allowed side then g.flag f else .error .misuse
  | .setting f v => if f.allowed side then g.value f v else .error .misuse
  | .group letters => g.group side letters
  | .plain t | .operand t => g.operand side t
  | .separator => .ok g
  | .unknown => .error .misuse

/-- What the words on one side say, up to the command, and the words behind that. -/
def readSide (here : Option Verb) (g : Given) :
    List Word → Except Stop (Given × Option (Verb × List Word))
  | [] => .ok (g, none)
  | w :: rest =>
    match here, w with
    | none, .plain t =>
      match Verb.ofText? t with
      | some v => .ok (g, some (v, rest))
      | none => .error .misuse
    | _, _ => (g.take here w).bind fun g => readSide here g rest

/-! ## Both sides -/

/-- The page that is asked for by the words behind the command for help: there is at most the
name of a command. -/
def helpOn : List Word → Request
  | [] => .help ⟨none, true⟩
  | [.plain t] =>
    match Verb.ofText? t with
    | some v => .help ⟨some v, true⟩
    | none => .misuse
  | _ => .misuse

/-- The command that is asked for. A command on a file needs its path. -/
def command? (v : Verb) (g : Given) : Option Command :=
  match v with
  | .help => none
  | .repl => some .repl
  | .tokens => g.path.map fun p => .tokens p ⟨g.format.getD .text, !g.noTrivia⟩
  | .check => g.path.map .check

/-- Without a command, lines are read and echoed. -/
def parse (args : List Text) : Request :=
  match readSide none {} (words args) with
  | .error stop => stop.request none
  | .ok (g, none) => .run ⟨.repl, g.verbose, g.color.getD .auto⟩
  | .ok (_, some (.help, rest)) => helpOn rest
  | .ok (before, some (verb, rest)) =>
    match readSide (some verb) {} rest with
    | .error stop => stop.request verb
    | .ok (after, _) =>
      match command? verb after with
      | none => .misuse
      | some command =>
        .run ⟨command, before.verbose || after.verbose,
          (after.color <|> before.color).getD .auto⟩

end CommandLine

end LosslessScanner
