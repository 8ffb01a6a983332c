import LosslessScanner.Diagnostic.Listing
import LosslessScanner.Dump
import LosslessScanner.Literal
import LosslessScanner.Log.Record
import LosslessScanner.Text.Utf8

/-!
# Sessions

A session holds one source under a name, and a report on it. Checking scans the
source and replaces the report: a character that has no place in the language
is an error, and a literal without a value is a warning. Diagnostics are shown
against the listing the session began with, even if its source has been
replaced since.
-/

namespace LosslessScanner

/-- A source under a name, and what was found in it. -/
structure Session where
  name : Text
  /-- What is scanned. -/
  source : Text
  /-- What diagnostics are shown against. -/
  listing : Listing
  report : Report
  deriving DecidableEq

namespace Session

/-- The number of the file of a session. -/
def file : Nat := 0

/-- A session on a text. -/
def ofText (name source : Text) : Session := ⟨name, source, ⟨name, source⟩, Report.empty⟩

/-- A session on a file, given the outcome of reading its bytes. -/
def ofFile (path : Text) (contents : Except ReadFailure ByteArray) : Except Problem Session :=
  let failed (f : ReadFailure) : Problem :=
    .file ("failed to read ".toList ++ path ++ [':', ' '] ++ f.message)
  match contents with
  | .error f => .error (failed f)
  | .ok bytes =>
    match Text.ofUtf8? bytes with
    | none => .error (failed .notUtf8)
    | some source => .ok (ofText path source)

/-- The tokens of the source, with the mark at the end. -/
def tokens (s : Session) : List LocatedToken := scanFile s.source

/-! ## Checking -/

/-- The error that a token is, if it is one. -/
def errorOf? (t : LocatedToken) : Option LexicalError :=
  match t.token.kind with
  | .undefined => some ⟨.undefinedToken t.token.contents, t.span⟩
  | _ => none

/-- The warning that a token deserves, if any: it is a literal and has no value. -/
def warningOf? (t : LocatedToken) : Option LexicalError :=
  if t.token.kind.isLiteral then
    match t.literal? with
    | .error e => some e
    | .ok _ => none
  else none

/-- A lexical error in the file of the session. -/
def finding (e : LexicalError) : Finding := ⟨.lexical e, file⟩

/-- The report on a source. -/
def inspect (source : Text) : Report :=
  let ts := Token.locate 0 (scan source)
  ⟨(ts.filterMap errorOf?).map finding, (ts.filterMap warningOf?).map finding⟩

/-- Replaces the report by one on the present source. -/
def check (s : Session) : Session := { s with report := inspect s.source }

/-- Forgets all that was found. -/
def clear (s : Session) : Session := { s with report := Report.empty }

/-- Replaces the source, but not the listing. -/
def setSource (s : Session) (source : Text) : Session := { s with source := source }

def addError (s : Session) (f : Finding) : Session := { s with report := s.report.addError f }

def addWarning (s : Session) (f : Finding) : Session := { s with report := s.report.addWarning f }

/-! ## Showing the report -/

/-- The report as text, with what went wrong in showing it. -/
def emit (s : Session) (color : Bool) : Text × Option Problem :=
  let (pieces, failure) := s.listing.render s.report.diagnostics
  (Piece.write color pieces, failure)

/-! ## Any sequence of steps -/

/-- What can be asked of a session. -/
inductive Step where
  | check
  | clear
  | addError (f : Finding)
  | addWarning (f : Finding)
  | setSource (source : Text)
  | report
  | diagnostics
  | emit (color : Bool)
  | tokens
  | dump (d : Dump)

/-- What it answers. -/
inductive Answer where
  | done
  | count (n : Nat)
  | report (r : Report)
  | diagnostics (ds : List Diagnostic)
  | shown (t : Text) (failure : Option Problem)
  | tokens (ts : List LocatedToken)
  | text (t : Text)

/-- One step: the answer, and the session after it. Only the first five change anything. -/
def step (s : Session) : Step → Answer × Session
  | .check => (.count s.check.report.errors.length, s.check)
  | .clear => (.done, s.clear)
  | .addError f => (.done, s.addError f)
  | .addWarning f => (.done, s.addWarning f)
  | .setSource source => (.done, s.setSource source)
  | .report => (.report s.report, s)
  | .diagnostics => (.diagnostics s.report.diagnostics, s)
  | .emit color => (.shown (s.emit color).1 (s.emit color).2, s)
  | .tokens => (.tokens s.tokens, s)
  | .dump d => (.text (d.render s.tokens), s)

/-- The answers to a sequence of steps, each with the session after it. -/
def run (s : Session) : List Step → List (Answer × Session)
  | [] => []
  | step :: steps => s.step step :: run (s.step step).2 steps

/-! ## What is recorded -/

/-- The record of having read a file. -/
def loaded (s : Session) : Log.Record :=
  ⟨.debug, .session,
    "loaded ".toList ++ s.name ++ " (".toList ++ Text.ofNat s.source.byteSize
      ++ " bytes)".toList⟩

/-- The record of a check, given the session after it. -/
def checked (s : Session) : Log.Record :=
  ⟨.debug, .session,
    "checked ".toList ++ s.name ++ ": ".toList
      ++ Text.ofNat ((scan s.source).countP (·.kind.isLiteral)) ++ " literal(s), ".toList
      ++ Text.ofNat s.report.errors.length ++ " error(s), ".toList
      ++ Text.ofNat s.report.warnings.length ++ " warning(s)".toList⟩

/-- The records of scanning the source once. -/
def scanLog (s : Session) : List Log.Record := Log.reading 0 s.source

/-- The records of a check. -/
def checkLog (s : Session) : List Log.Record := s.scanLog ++ [s.check.checked]

/-- What a step records. -/
def stepLog (s : Session) : Step → List Log.Record
  | .check => s.checkLog
  | .tokens | .dump _ => s.scanLog
  | .clear | .addError _ | .addWarning _ | .setSource _ | .report | .diagnostics | .emit _ => []

end Session

end LosslessScanner
