import LosslessScanner.Pattern.Meaning
import LosslessScanner.Pattern.Reader

/-!
# Patterns

A pattern describes texts to look for in another text. `parse` reads one and
`occursIn` looks for it; a pattern that cannot be read, or that would take a
machine that cannot be built, is refused with a reason.
-/

namespace LosslessScanner

/-- A pattern that can be looked for. -/
structure Pattern where
  expr : Pattern.Expr

namespace Pattern

/-- Why a pattern is refused. -/
inductive Refusal where
  | complaint (c : Complaint)
  /-- It speaks of words of all scripts. -/
  | noMachine
  | tooLarge

/-- A refusal in words. -/
def Refusal.message (pattern : Text) : Refusal → Text
  | complaint c => c.layout pattern
  | noMachine => "error building NFA".toList
  | tooLarge =>
    "Compiled regex exceeds size limit of ".toList ++ Text.ofNat Expr.sizeLimit
      ++ " bytes.".toList

/-- What a pattern looks for. -/
def exprOf (pattern : Text) : Except Complaint Expr := do
  let t ← Tree.ofText pattern
  let (e, _) ← t.meaning .initial
  .ok e

/-- Reads a pattern. -/
def parse (pattern : Text) : Except Refusal Pattern :=
  match exprOf pattern with
  | .error c => .error (.complaint c)
  | .ok e =>
    if !e.knowsWords then .error .noMachine
    else if !e.isSmall then .error .tooLarge
    else .ok ⟨e⟩

/-- A pattern matches a part of a text. -/
def occursIn (p : Pattern) (t : Text) : Bool := p.expr.occursIn t

end Pattern

end LosslessScanner
