import Mathlib.Data.List.DropRight
import LosslessScanner.Session

/-!
# What a session remembers

A session can be checked, cleared, given a new source, and handed findings from
outside, in any order and any number of times. Its report shows little of that
history. A check or a clearing makes the report anew, so nothing from before
counts any more, neither what an earlier check found nor what was added. What
has been added since is kept behind that, in its order, and everything else
that can be done to a session only looks at it.

A check sees one thing of what came before it: the text that the source was
last set to. So the report that a check leaves is the one of a fresh session on
that text, whatever its name (`base`).

The histories are taken apart at their end, where the last step is, since that
is where a report is either made anew or gets one finding more.
-/

namespace LosslessScanner.Session

/-! ## Histories -/

/-- The session after a sequence of steps. -/
def after (s : Session) (steps : List Step) : Session :=
  ((s.run steps).getLast?.map Prod.snd).getD s

theorem after_cons (s : Session) (step : Step) (steps : List Step) :
    s.after (step :: steps) = (s.step step).2.after steps := by
  simp only [after, run, List.getLast?_cons]
  cases (run (s.step step).2 steps).getLast? with
  | none => rfl
  | some answer => rfl

theorem after_concat (s : Session) (steps : List Step) (step : Step) :
    s.after (steps ++ [step]) = ((s.after steps).step step).2 := by
  induction steps generalizing s with
  | nil => rfl
  | cons first steps ih => rw [List.cons_append, after_cons, after_cons, ih]

namespace Step

/-- The report is made anew. -/
def resets : Step → Bool
  | check | clear => true
  | addError _ | addWarning _ | setSource _ | report | diagnostics | emit _ | tokens | dump _ =>
    false

/-- The session is only looked at. -/
def reads : Step → Bool
  | report | diagnostics | emit _ | tokens | dump _ => true
  | check | clear | addError _ | addWarning _ | setSource _ => false

def error? : Step → Option Finding
  | addError f => some f
  | _ => none

def warning? : Step → Option Finding
  | addWarning f => some f
  | _ => none

def source? : Step → Option Text
  | setSource source => some source
  | _ => none

end Step

/-- The steps up to the last one that makes the report anew, and that one. -/
def settled (steps : List Step) : List Step := steps.rdropWhile fun step => !step.resets

/-- The steps after it. -/
def recent (steps : List Step) : List Step := steps.rtakeWhile fun step => !step.resets

/-- The source that a session has after a sequence of steps. -/
def sourceAfter (source : Text) (steps : List Step) : Text :=
  (steps.filterMap Step.source?).getLast?.getD source

/-- What the last step that made the report anew left in it: nothing if there was none or if it
was a clearing, and otherwise what a check finds in a fresh session on the source of that time. -/
def base (name source : Text) (steps : List Step) : Report :=
  match (settled steps).getLast? with
  | some .check => (ofText name (sourceAfter source (settled steps))).check.report
  | _ => Report.empty

/-- The report after a sequence of steps: the base, and what has been added to it since. -/
def remembered (name source : Text) (steps : List Step) : Report :=
  let base := base name source steps
  ⟨base.errors ++ (recent steps).filterMap Step.error?,
    base.warnings ++ (recent steps).filterMap Step.warning?⟩

variable {steps : List Step} {step : Step}

theorem settled_concat_of_resets (h : step.resets = true) :
    settled (steps ++ [step]) = steps ++ [step] :=
  List.rdropWhile_concat_neg _ _ _ (by simp [h])

theorem recent_concat_of_resets (h : step.resets = true) : recent (steps ++ [step]) = [] :=
  List.rtakeWhile_concat_neg _ _ _ (by simp [h])

theorem settled_concat (h : step.resets = false) : settled (steps ++ [step]) = settled steps :=
  List.rdropWhile_concat_pos _ _ _ (by simp [h])

theorem recent_concat (h : step.resets = false) :
    recent (steps ++ [step]) = recent steps ++ [step] :=
  List.rtakeWhile_concat_pos _ _ _ (by simp [h])

theorem source_after (name source : Text) (steps : List Step) :
    ((ofText name source).after steps).source = sourceAfter source steps := by
  induction steps using List.reverseRecOn with
  | nil => rfl
  | append_singleton steps step ih =>
      rw [after_concat, sourceAfter, List.filterMap_append, List.getLast?_append]
      cases step with
      | setSource text => rfl
      | check | clear | addError _ | addWarning _ | report | diagnostics | emit _ | tokens
      | dump _ => exact ih

/-! ## What a step does to it -/

theorem base_check (name source : Text) (steps : List Step) :
    base name source (steps ++ [.check]) =
      (ofText name (sourceAfter source steps)).check.report := by
  have hsource : sourceAfter source (steps ++ [.check]) = sourceAfter source steps := by
    rw [sourceAfter, List.filterMap_append, List.getLast?_append]
    rfl
  rw [base, settled_concat_of_resets rfl, List.getLast?_concat, hsource]

theorem base_clear (name source : Text) (steps : List Step) :
    base name source (steps ++ [.clear]) = Report.empty := by
  rw [base, settled_concat_of_resets rfl, List.getLast?_concat]

/-- A step that makes the report anew leaves nothing but the base. -/
theorem remembered_concat_of_resets (name source : Text) (h : step.resets = true) :
    remembered name source (steps ++ [step]) = base name source (steps ++ [step]) := by
  rw [remembered, recent_concat_of_resets h]
  simp only [List.filterMap_nil, List.append_nil]

/-- Any other step leaves the base and adds one finding to it, or none. -/
theorem remembered_concat (name source : Text) (h : step.resets = false) :
    remembered name source (steps ++ [step]) =
      ⟨(remembered name source steps).errors ++ step.error?.toList,
        (remembered name source steps).warnings ++ step.warning?.toList⟩ := by
  have hone {β : Type} (f : Step → Option β) : [step].filterMap f = (f step).toList := by
    cases hf : f step <;> simp [hf]
  simp only [remembered, base, settled_concat h, recent_concat h, List.filterMap_append, hone,
    List.append_assoc]

/-- The report of a session is what its history leaves of it. -/
theorem report_after (name fresh source : Text) (steps : List Step) :
    ((ofText name source).after steps).report = remembered fresh source steps := by
  induction steps using List.reverseRecOn with
  | nil => rfl
  | append_singleton steps step ih =>
      rw [after_concat]
      cases step with
      | check =>
        rw [remembered_concat_of_resets _ _ rfl, base_check, ← source_after name]
        rfl
      | clear =>
        rw [remembered_concat_of_resets _ _ rfl, base_clear]
        rfl
      | addError f =>
        rw [remembered_concat _ _ rfl, ← ih]
        simp [Session.step, addError, Report.addError, Step.error?, Step.warning?]
      | addWarning f =>
        rw [remembered_concat _ _ rfl, ← ih]
        simp [Session.step, addWarning, Report.addWarning, Step.error?, Step.warning?]
      | setSource _ | report | diagnostics | emit _ | tokens
      | dump _ =>
        rw [remembered_concat _ _ rfl, ← ih]
        simp [Session.step, setSource, Step.error?, Step.warning?]

/-! ## What can be seen of it -/

/-- What a session has found is the report `r`, whichever way it is asked, and looking at the session
changes nothing. -/
structure Holds (r : Report) (s : Session) : Prop where
  errors : s.report.errors = r.errors
  warnings : s.report.warnings = r.warnings
  errorCount : s.report.errorCount = r.errors.length
  warningCount : s.report.warningCount = r.warnings.length
  hasErrors : s.report.hasErrors = true ↔ r.errors ≠ []
  hasWarnings : s.report.hasWarnings = true ↔ r.warnings ≠ []
  report : s.step .report = (.report r, s)
  diagnostics : s.step .diagnostics =
    (.diagnostics (r.errors.map (·.diagnose .error) ++ r.warnings.map (·.diagnose .warning)), s)
  still : ∀ step : Step, step.reads = true → (s.step step).2 = s

theorem holds_report (s : Session) : Holds s.report s where
  errors := rfl
  warnings := rfl
  errorCount := rfl
  warningCount := rfl
  hasErrors := by simp [Report.hasErrors]
  hasWarnings := by simp [Report.hasWarnings]
  report := rfl
  diagnostics := rfl
  still := by
    intro step hreads
    cases step with
    | check | clear | addError _ | addWarning _ | setSource _ => exact Bool.noConfusion hreads
    | report | diagnostics | emit _ | tokens | dump _ => rfl

/-- Whatever has been done to a session on a text, it holds what the last check or clearing has
left and what has been added since, and a check answers how many errors it leaves. -/
theorem holds_after (name fresh source : Text) (steps : List Step) :
    let s := (ofText name source).after steps
    Holds (remembered fresh source steps) s ∧
      (s.step .check).1 = .count (base fresh source (steps ++ [.check])).errors.length := by
  intro s
  refine ⟨?_, ?_⟩
  · rw [← report_after name]
    exact holds_report s
  · rw [base_check, ← source_after name]
    rfl

end LosslessScanner.Session
