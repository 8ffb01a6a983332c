import LosslessScanner.Log.Moment
import LosslessScanner.Shell.Program
import Std.Time.DateTime.Timestamp

/-!
# The command line program

All that is done here is to read and to write. What a run writes is computed by
`Program`; a file is read before its run is computed, and lines of input are
answered one at a time, as they come.
-/

open LosslessScanner

namespace LosslessScanner.Terminal

/-- The failure behind an error of the system. -/
def failureOf : IO.Error → ReadFailure
  | .noFileOrDirectory _ _ _ => .notFound
  | .permissionDenied _ code description => .system code.toNat description.toList
  | .inappropriateType _ code description => .system code.toNat description.toList
  | .invalidArgument _ code description => .system code.toNat description.toList
  | .resourceExhausted _ code description => .system code.toNat description.toList
  | .otherError code description => .system code.toNat description.toList
  | e => .system 0 (toString e).toList

/-- Reads the bytes of a file. -/
def readFile (path : Text) : IO (Except ReadFailure ByteArray) := do
  try
    return .ok (← IO.FS.readBinFile (String.ofList path))
  catch e =>
    return .error (failureOf e)

/-- Writes what an event has to write. -/
def write (shown : Log.Record → Bool) : Event → IO Unit
  | .output t => do
    IO.print (String.ofList t)
    (← IO.getStdout).flush
  | .complaint t => IO.eprint (String.ofList t)
  | .log r => do
    if shown r then
      let now ← Std.Time.Timestamp.now
      let seconds := now.toSecondsSinceUnixEpoch.val.toNat
      IO.eprint (String.ofList (r.line (Log.moment seconds)))

/-- Reads bytes up to a line feed or the end of the input. -/
partial def readChunk (input : IO.FS.Stream) (chunk : List UInt8) : IO (List UInt8) := do
  let bytes ← input.read 1
  match bytes.toList with
  | [] => return chunk.reverse
  | b :: _ => if b = 10 then return (b :: chunk).reverse else readChunk input (b :: chunk)

/-- Answers lines of input until the session ends. -/
partial def converse (console : Console) (write : Event → IO Unit) (input : IO.FS.Stream) :
    IO Nat := do
  write (.output Repl.prompt)
  match ← readChunk input [] with
  | [] =>
    write Program.farewell
    return 0
  | chunk =>
    let (events, code) := Program.turn console chunk
    events.forM write
    match code with
    | some code => return code
    | none => converse console write input

/-- What the environment says: the filter for the log, and whether the terminal shows colors. -/
def environment : IO (Option Text × Bool) := do
  let filter ← IO.getEnv "RUST_LOG"
  let terminal ← IO.getEnv "TERM"
  let noColor ← IO.getEnv "NO_COLOR"
  return (filter.map String.toList, terminal.any (· ≠ "dumb") && noColor.isNone)

/-- How the command line goes on behind the name of the program. -/
def usageOf : Option CommandLine.Verb → String
  | none => "[OPTIONS] [COMMAND]"
  | some .repl => "repl [OPTIONS]"
  | some .tokens => "tokens [OPTIONS] <INPUT>"
  | some .check => "check [OPTIONS] <INPUT>"
  | some .help => "help [COMMAND]..."

/-- A page of the manual. -/
def manual (page : Help) : Text := ("Usage: objkaleidoscope " ++ usageOf page.topic ++ "\n").toList

/-- The console that the program runs on. -/
def console : IO Console := do
  let valueOf (name : String) : IO (Option Text) := do
    return (← IO.getEnv name).map String.toList
  return {
    terminal := ← (← IO.getStdout).isTty
    force := ← valueOf "CLICOLOR_FORCE"
    noColor := ← valueOf "NO_COLOR"
    color := ← valueOf "CLICOLOR"
    manual := manual }

/-- The file that a request reads. -/
def pathOf : Request → Option Text
  | .run ⟨.tokens path _, _, _⟩ => some path
  | .run ⟨.check path, _, _⟩ => some path
  | _ => none

end LosslessScanner.Terminal

open LosslessScanner.Terminal in
/-- Runs the program. -/
def main (args : List String) : IO UInt32 := do
  let request := CommandLine.parse (args.map String.toList)
  let (filter, colorTerminal) ← environment
  let console ← console
  let contents ← match pathOf request with
    | some path => readFile path
    | none => pure (.error .notFound)
  let env : Program.Environment := ⟨filter, colorTerminal, fun _ => contents, []⟩
  let (logFilter, warnings) := Program.logFilter env
  let write := write (Program.shown logFilter request)
  (warnings.map Program.filterWarning).forM write
  let code ← match request with
    | .run ⟨.repl, _, _⟩ => converse console write (← IO.getStdin)
    | _ => do
      let r := Program.run console env request
      r.events.forM write
      pure r.code
  if code = 2 then IO.eprintln "error: the arguments cannot be understood"
  return code.toUInt32
