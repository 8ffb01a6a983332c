import LosslessScanner.Proofs.Emission
import LosslessScanner.Proofs.History

/-!
# Where a report breaks off

Showing a report can fail, and for one reason only: a lexical error has to be
shown in its file, and the session has no other file than its own. Which
findings are lost in this way can be told from each finding by itself
(`Finding.isLost`). A problem that is not lexical has no place, so the number of
its file is never looked at.

A report is shown finding by finding, errors first, up to the first that is
lost. How the findings came into the session makes no difference, and neither
does what has become of its source since: they are shown against the listing
that the session began with (`listing_after`). A check finds nothing that is
lost, so that after it only a finding from outside can break the report off.
-/

namespace LosslessScanner

/-- A lexical error in a file that a session does not have. -/
def Finding.isLost (f : Finding) : Bool :=
  match f.problem with
  | .lexical _ => f.file ≠ Session.file
  | .file _ | .other _ => false

theorem Finding.isPlaced_diagnose (severity : Severity) (f : Finding) :
    (f.diagnose severity).isPlaced = !f.isLost := by
  obtain ⟨problem, file⟩ := f
  cases problem with
  | lexical e =>
      show decide (file = 0) = !decide (file ≠ 0)
      rw [decide_not, Bool.not_not]
  | file reason => rfl
  | other reason => rfl

namespace Report

/-- The findings of a report with their severities, in the order in which they are shown. -/
def entries (r : Report) : List (Severity × Finding) :=
  r.errors.map (Severity.error, ·) ++ r.warnings.map (Severity.warning, ·)

theorem diagnostics_eq (r : Report) :
    r.diagnostics = r.entries.map fun entry => entry.2.diagnose entry.1 := by
  rw [diagnostics, entries, List.map_append, List.map_map, List.map_map]
  rfl

theorem mem_entries_addError {r : Report} {f : Finding} {entry : Severity × Finding}
    (h : entry ∈ (r.addError f).entries) : entry ∈ r.entries ∨ entry.2 = f := by
  simp only [entries, addError, List.map_append, List.mem_append] at h ⊢
  rcases h with (hold | hnew) | hwarning
  · exact Or.inl (Or.inl hold)
  · exact Or.inr (by rw [List.mem_singleton.1 hnew])
  · exact Or.inl (Or.inr hwarning)

theorem mem_entries_addWarning {r : Report} {f : Finding} {entry : Severity × Finding}
    (h : entry ∈ (r.addWarning f).entries) : entry ∈ r.entries ∨ entry.2 = f := by
  simp only [entries, addWarning, List.map_append, List.mem_append] at h ⊢
  rcases h with herror | hold | hnew
  · exact Or.inl (Or.inl herror)
  · exact Or.inl (Or.inr hold)
  · exact Or.inr (by rw [List.mem_singleton.1 hnew])

/-- Nothing in a report is lost. -/
def IsWhole (r : Report) : Prop := ∀ entry ∈ r.entries, entry.2.isLost = false

theorem isWhole_inspect (source : Text) : (Session.inspect source).IsWhole := by
  intro entry hentry
  have hmem : entry.2.diagnose entry.1 ∈ (Session.inspect source).diagnostics := by
    rw [diagnostics_eq]
    exact List.mem_map_of_mem hentry
  have hplaced := Session.isPlaced_of_mem_inspect hmem
  rw [Finding.isPlaced_diagnose] at hplaced
  simpa using hplaced

end Report

namespace Session

/-- A session on a text with one finding in it. -/
def bearing (name source : Text) : Severity × Finding → Session
  | (.error, f) => (ofText name source).addError f
  | (.warning, f) => (ofText name source).addWarning f

variable (name source : Text) (color : Bool)

theorem emit_bearing (entry : Severity × Finding) :
    (bearing name source entry).emit color =
      let (pieces, failure) := (Listing.mk name source).render [entry.2.diagnose entry.1]
      (Piece.write color pieces, failure) := by
  obtain ⟨_ | _, f⟩ := entry
  · rfl
  · rfl

/-- A problem that is not lexical is shown by its message alone, whatever file it comes from. -/
theorem emit_bearing_of_label (entry : Severity × Finding) (h : entry.2.label = none) :
    (bearing name source entry).emit color =
      (Piece.write color (Listing.headline (entry.2.diagnose entry.1)) ++ ['\n'], none) := by
  rw [emit_bearing]
  simp only [Listing.render, Listing.render?, Finding.diagnose, h, List.append_nil]
  rw [Piece.write_append]
  cases color with
  | false => rfl
  | true => rfl

/-! ## Any history -/

theorem listing_step (s : Session) (step : Step) : (s.step step).2.listing = s.listing := by
  cases step with
  | check | clear | addError _ | addWarning _ | setSource _ | report | diagnostics | emit _ | tokens
  | dump _ => rfl

/-- Nothing that is done to a session changes what its report is shown against. -/
theorem listing_after (s : Session) (steps : List Step) : (s.after steps).listing = s.listing := by
  induction steps generalizing s with
  | nil => rfl
  | cons step steps ih => rw [after_cons, ih, listing_step]

theorem forall_entries_step {P : Finding → Prop} {s : Session} {step : Step}
    (hfound : ∀ source, ∀ entry ∈ (inspect source).entries, P entry.2)
    (hadded : ∀ f, step.error? = some f ∨ step.warning? = some f → P f)
    (h : ∀ entry ∈ s.report.entries, P entry.2) :
    ∀ entry ∈ (s.step step).2.report.entries, P entry.2 := by
  cases step with
  | check => exact hfound s.source
  | clear => exact nofun
  | addError f =>
      intro entry hentry
      rcases Report.mem_entries_addError hentry with hold | hnew
      · exact h entry hold
      · exact hnew ▸ hadded f (Or.inl rfl)
  | addWarning f =>
      intro entry hentry
      rcases Report.mem_entries_addWarning hentry with hold | hnew
      · exact h entry hold
      · exact hnew ▸ hadded f (Or.inr rfl)
  | setSource _ | report | diagnostics | emit _ | tokens
  | dump _ => exact h

/-- What holds of all that checks find and of all that is added holds of all that is there. -/
theorem forall_entries_after {P : Finding → Prop} {s : Session} {steps : List Step}
    (hfound : ∀ source, ∀ entry ∈ (inspect source).entries, P entry.2)
    (hadded : ∀ step ∈ steps, ∀ f, step.error? = some f ∨ step.warning? = some f → P f)
    (h : ∀ entry ∈ s.report.entries, P entry.2) :
    ∀ entry ∈ (s.after steps).report.entries, P entry.2 := by
  induction steps generalizing s with
  | nil => exact h
  | cons step steps ih =>
      obtain ⟨hstep, hrest⟩ := List.forall_mem_cons.1 hadded
      rw [after_cons]
      exact ih hrest (forall_entries_step hfound hstep h)

/-- As long as nothing comes from outside, nothing is lost. -/
theorem isWhole_after {s : Session} {steps : List Step} (h : s.report.IsWhole)
    (hsteps : ∀ step ∈ steps, step.error? = none ∧ step.warning? = none) :
    (s.after steps).report.IsWhole := by
  refine forall_entries_after (P := fun f => f.isLost = false) Report.isWhole_inspect
    (fun step hstep f hf => ?_) h
  obtain ⟨herror, hwarning⟩ := hsteps step hstep
  simp [herror, hwarning] at hf

/-- What a session shows of its report, entry by entry. -/
theorem emit_eq (s : Session) :
    s.emit color =
      ((s.report.entries.takeWhile fun entry => !entry.2.isLost).flatMap fun entry =>
          ((bearing s.listing.name s.listing.text entry).emit color).1,
        if s.report.entries.all fun entry => !entry.2.isLost then none
        else some Listing.missingFile) := by
  have hplaced : (Diagnostic.isPlaced ∘ fun entry : Severity × Finding =>
      entry.2.diagnose entry.1) = fun entry => !entry.2.isLost := by
    funext entry
    exact Finding.isPlaced_diagnose entry.1 entry.2
  rw [emit, Listing.render_eq, Report.diagnostics_eq, List.takeWhile_map, List.all_map, hplaced]
  simp only [Piece.write_flatMap, List.flatMap_map, emit_bearing]
  rfl

theorem emit_of_isWhole {s : Session} (h : s.report.IsWhole) : (s.emit color).2 = none := by
  rw [emit_eq]
  refine if_pos (List.all_eq_true.2 fun entry hentry => ?_)
  rw [h entry hentry]
  rfl

theorem emit_fails_iff (s : Session) :
    (s.emit color).2 = some Listing.missingFile ↔
      ∃ f ∈ s.report.errors ++ s.report.warnings, f.isLost = true := by
  have hentries : (∃ f ∈ s.report.errors ++ s.report.warnings, f.isLost = true) ↔
      ∃ entry ∈ s.report.entries, entry.2.isLost = true := by
    simp [Report.entries, or_and_right, exists_or]
  rw [hentries, emit_eq]
  split
  · next hall =>
      refine iff_of_false (by simp) ?_
      rintro ⟨entry, hmem, hlost⟩
      have hnot := List.all_eq_true.1 hall entry hmem
      rw [hlost] at hnot
      exact Bool.noConfusion hnot
  · next hall =>
      refine iff_of_true rfl ?_
      simpa using hall

/-- Whatever has been done to a session, its report is shown up to the first lexical error that
is in another file, each entry as if it were the only one. This fails if there is such an error,
among the errors or the warnings, and leaves the session as it is. Problems without a place are
shown by their message, and what a check finds is always shown. -/
theorem emit_after (steps : List Step) :
    let s := (ofText name source).after steps
    (((s.emit color).2 ≠ none ↔
        ∃ f ∈ s.report.errors ++ s.report.warnings, f.isLost = true) ∧
      ((s.emit color).2 ≠ none → (s.emit color).2 = some Listing.missingFile)) ∧
    (s.emit color).1 =
      (s.report.entries.takeWhile fun entry => !entry.2.isLost).flatMap
        (fun entry => ((bearing name source entry).emit color).1) ∧
    (∀ severity reason file, ∀ problem ∈ [Problem.file reason, Problem.other reason],
      (bearing name source (severity, ⟨problem, file⟩)).emit color =
        (Piece.write color (Listing.headline ⟨severity, problem.message, none⟩) ++ ['\n'], none)) ∧
    s.step (.emit color) = (.shown (s.emit color).1 (s.emit color).2, s) ∧
    ∀ later : List Step, (∀ step ∈ later, step.error? = none ∧ step.warning? = none) →
      ((s.after (.check :: later)).emit color).2 = none := by
  intro s
  have hfailure : (s.emit color).2 ≠ none ↔ (s.emit color).2 = some Listing.missingFile := by
    rw [emit_eq]
    split
    · simp
    · simp
  refine ⟨⟨?_, hfailure.1⟩, ?_, ?_, rfl, ?_⟩
  · rw [hfailure, emit_fails_iff]
  · rw [emit_eq, listing_after]
    rfl
  · intro severity reason file problem hproblem
    have hlabel : Finding.label ⟨problem, file⟩ = none := by
      rcases List.mem_pair.1 hproblem with rfl | rfl
      · rfl
      · rfl
    rw [emit_bearing_of_label name source color (severity, ⟨problem, file⟩) hlabel,
      Finding.diagnose, hlabel]
  · intro later hlater
    rw [after_cons]
    exact emit_of_isWhole color (isWhole_after (Report.isWhole_inspect s.source) hlater)

/-- A label over two lines of a listing is shown, and behind it a label in another file is not. -/
example :
    let e : LexicalError := ⟨.undefinedToken ['?'], ⟨1, 2⟩⟩
    ((ofText ['f'] "a\nb".toList).after
        [.addError ⟨.lexical e, 0⟩, .addError ⟨.lexical e, 1⟩]).emit false =
      (("error: lexical error: unrecognized character \"?\"\n" ++
        "  ┌─ f:1:2\n" ++
        "  │  \n" ++
        "1 │   a\n" ++
        "  │ ╭─^\n" ++
        "2 │ │ b\n" ++
        "  │ ╰^ this character is not part of the language\n" ++
        "\n").toList, some Listing.missingFile) := by
  decide +kernel

end Session

end LosslessScanner
