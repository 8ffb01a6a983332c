import LosslessScanner.Shell.Program

/-!
# What comes out of a run

The exit code and the output of the program are those of the run that its
command line asks for. The filter for the log has no part in them: whatever it
shows, and whatever it complains of, goes to the other end.
-/

namespace LosslessScanner

/-- What events write to the output. -/
def outputs (events : List Event) : Text := events.flatMap Outcome.outputOf

@[simp] theorem outputs_nil : outputs [] = [] := rfl

@[simp] theorem outputs_append (es fs : List Event) : outputs (es ++ fs) = outputs es ++ outputs fs := by
  simp [outputs]

@[simp] theorem outputs_output (t : Text) (es : List Event) :
    outputs (.output t :: es) = t ++ outputs es := rfl

@[simp] theorem outputs_complaint (t : Text) (es : List Event) :
    outputs (.complaint t :: es) = outputs es := rfl

@[simp] theorem outputs_log (r : Log.Record) (es : List Event) :
    outputs (.log r :: es) = outputs es := rfl

@[simp] theorem outputs_map_log (rs : List Log.Record) : outputs (rs.map .log) = [] := by
  induction rs with
  | nil => rfl
  | cons r rs ih => rw [List.map_cons, outputs_log, ih]

/-- The word for success and what comes behind it. -/
theorem Console.success_eq (console : Console) :
    console.success ++ ": No errors found\n".toList =
      (if console.styles then "\x1b[1;32msuccess\x1b[0m: No errors found\n"
        else "success: No errors found\n").toList := by
  rw [success, word]
  split
  · decide
  · decide

/-- The word for an error and what comes behind it. -/
theorem Console.error_eq (console : Console) :
    console.error ++ [':', ' '] =
      (if console.styles then "\x1b[1;31merror\x1b[0m: " else "error: ").toList := by
  rw [error, word]
  split
  · decide
  · decide

namespace Run

def output (r : Run) : Text := outputs r.events

@[simp] theorem output_after (es : List Event) (r : Run) :
    (after es r).output = outputs es ++ r.output := outputs_append es r.events

@[simp] theorem code_after (es : List Event) (r : Run) : (after es r).code = r.code := rfl

theorem complaints_failed (console : Console) (time : Text) (shown : Log.Record → Bool)
    (reason : Text) :
    (failed console reason).events.flatMap (Outcome.complaintOf time shown) =
      (if console.styles then "\x1b[1;31merror\x1b[0m: " else "error: ").toList
        ++ reason ++ ['\n'] := by
  rw [← console.error_eq]
  exact List.append_nil _

end Run

namespace Program

variable (time : Text) (env : Environment) (args : List Text) (console : Console)

theorem outcome_eq :
    outcome time env args console =
      Outcome.ofRun time (shown (logFilter env).1 (CommandLine.parse args))
        (Run.after ((logFilter env).2.map filterWarning)
          (run console env (CommandLine.parse args))) :=
  rfl

theorem outcome_code :
    (outcome time env args console).code = (run console env (CommandLine.parse args)).code := rfl

theorem outcome_output :
    (outcome time env args console).output =
      (run console env (CommandLine.parse args)).output := by
  have hwarnings (ws : List Text) : outputs (ws.map filterWarning) = [] := by
    induction ws with
    | nil => rfl
    | cons w ws ih => rw [List.map_cons, filterWarning, outputs_complaint, ih]
  rw [outcome_eq]
  show (Run.after _ _).output = _
  rw [Run.output_after, hwarnings, List.nil_append]

/-- What stands on the error output because of the log: complaints about its filter, and then
those of the records `rs` that it shows. -/
def logText (request : Request) (rs : List Log.Record) : Text :=
  ((logFilter env).2.map filterWarning ++ rs.map Event.log).flatMap
    (Outcome.complaintOf time (shown (logFilter env).1 request))

/-- Behind the log there is what a run complains of itself. -/
theorem outcome_complaints {env : Environment} {args : List Text} {console : Console}
    {rs : List Log.Record} {es : List Event}
    (h : (run console env (CommandLine.parse args)).events = rs.map .log ++ es) :
    (outcome time env args console).complaints = logText time env (CommandLine.parse args) rs ++
      es.flatMap (Outcome.complaintOf time
        (shown (logFilter env).1 (CommandLine.parse args))) := by
  rw [outcome_eq, logText, ← List.flatMap_append, List.append_assoc, ← h]
  rfl

end Program

end LosslessScanner
