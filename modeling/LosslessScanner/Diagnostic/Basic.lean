import LosslessScanner.Problem

/-!
# Diagnostics

A diagnostic is a problem made ready to be shown: how severe it is, what is the
matter, and, if the problem has a place, a label there. Files go by numbers; a
label says in which file its place is. Problems with a place are the lexical
ones, and no others.

A report collects problems, errors and warnings apart, each in the order in
which it was found.
-/

namespace LosslessScanner

inductive Severity where
  | error
  | warning
  deriving DecidableEq

def Severity.name : Severity → Text
  | error => "error".toList
  | warning => "warning".toList

/-- A place in a file and a remark on it. -/
structure Label where
  file : Nat
  span : Span
  remark : Text
  deriving DecidableEq

/-- A problem made ready to be shown. -/
structure Diagnostic where
  severity : Severity
  message : Text
  label : Option Label
  deriving DecidableEq

/-- A problem and the number of the file that it was found in. -/
structure Finding where
  problem : Problem
  file : Nat
  deriving DecidableEq

/-- The label of a finding: the place of a lexical error. -/
def Finding.label (f : Finding) : Option Label :=
  match f.problem with
  | .lexical e => some ⟨f.file, e.span, e.fault.remark⟩
  | .file _ | .other _ => none

/-- A finding as a diagnostic. -/
def Finding.diagnose (severity : Severity) (f : Finding) : Diagnostic :=
  ⟨severity, f.problem.message, f.label⟩

/-- The problems found so far. -/
structure Report where
  errors : List Finding
  warnings : List Finding
  deriving DecidableEq

namespace Report

def empty : Report := ⟨[], []⟩

def addError (r : Report) (f : Finding) : Report := { r with errors := r.errors ++ [f] }

def addWarning (r : Report) (f : Finding) : Report := { r with warnings := r.warnings ++ [f] }

def errorCount (r : Report) : Nat := r.errors.length

def warningCount (r : Report) : Nat := r.warnings.length

def hasErrors (r : Report) : Bool := !r.errors.isEmpty

def hasWarnings (r : Report) : Bool := !r.warnings.isEmpty

/-- All diagnostics, the errors first. -/
def diagnostics (r : Report) : List Diagnostic :=
  r.errors.map (·.diagnose .error) ++ r.warnings.map (·.diagnose .warning)

end Report

end LosslessScanner
