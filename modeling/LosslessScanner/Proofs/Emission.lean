import Mathlib.Data.List.TakeWhile
import LosslessScanner.Session

/-!
# Diagnostics one after the other

A report is written diagnostic by diagnostic, and none of them depends on those
before it. What is written is therefore what would be written of each alone,
put together (`Listing.render_eq`). It breaks off in front of the first
diagnostic whose label is in a file that is not there, and that is the only way
to fail.

A session has one file, and all that a check finds is in it. So after a check
the whole report is written (`emit_check`).
-/

namespace LosslessScanner

theorem Piece.write_flatMap (color : Bool) {α : Type} (f : α → List Piece) (xs : List α) :
    write color (xs.flatMap f) = xs.flatMap fun x => write color (f x) := by
  rw [write, List.flatMap_assoc]
  rfl

namespace Diagnostic

/-- A diagnostic has no label in a file that is not there. -/
def isPlaced (d : Diagnostic) : Bool := d.label.all (·.file = 0)

end Diagnostic

namespace Listing

/-- What is written of a diagnostic that is the only one. -/
def alone (l : Listing) (d : Diagnostic) : List Piece := (l.render [d]).1

theorem alone_of_render? {l : Listing} {d : Diagnostic} {ps : List Piece}
    (h : l.render? d = some ps) : l.alone d = ps := by
  simp [alone, render, h]

/-- A diagnostic that has its file is written, under its headline. -/
theorem render?_of_placed {l : Listing} {d : Diagnostic} (h : d.isPlaced = true) :
    l.render? d = some (l.alone d) ∧ headline d <+: l.alone d := by
  obtain ⟨severity, message, _ | label⟩ := d
  · rw [alone_of_render? (l := l) (d := ⟨severity, message, none⟩) rfl]
    exact ⟨rfl, List.prefix_append _ _⟩
  · have hfile : label.file = 0 := by simpa [Diagnostic.isPlaced] using h
    have hrender : l.render? ⟨severity, message, some label⟩ =
        some (headline ⟨severity, message, some label⟩ ++
          (l.rows severity label ++ [.text ['\n']])) := by
      rw [← List.append_assoc]
      exact if_pos hfile
    rw [alone_of_render? hrender]
    exact ⟨hrender, List.prefix_append _ _⟩

theorem render?_of_not_placed {l : Listing} {d : Diagnostic} (h : d.isPlaced = false) :
    l.render? d = none := by
  obtain ⟨severity, message, _ | label⟩ := d
  · exact Bool.noConfusion h
  · have hfile : label.file ≠ 0 := by simpa [Diagnostic.isPlaced] using h
    exact if_neg hfile

/-- A listing shows the diagnostics in front of the first that it has no file for, each as if
it were alone. -/
theorem render_eq (l : Listing) (ds : List Diagnostic) :
    l.render ds = ((ds.takeWhile Diagnostic.isPlaced).flatMap l.alone,
      if ds.all Diagnostic.isPlaced then none else some missingFile) := by
  induction ds with
  | nil => rfl
  | cons d ds ih =>
      rw [render]
      by_cases h : d.isPlaced = true
      · rw [(render?_of_placed h).1, ih]
        simp [h]
      · rw [Bool.not_eq_true] at h
        rw [render?_of_not_placed h]
        simp [h]

/-- Nothing goes wrong if there is a file for all of them. -/
theorem render_of_placed {l : Listing} {ds : List Diagnostic}
    (h : ∀ d ∈ ds, d.isPlaced = true) : l.render ds = (ds.flatMap l.alone, none) := by
  rw [render_eq, List.takeWhile_eq_self_iff.2 h, if_pos (List.all_eq_true.2 h)]

end Listing

namespace Session

/-- What a session writes of a diagnostic that is the only one. -/
def shown (s : Session) (color : Bool) (d : Diagnostic) : Text :=
  Piece.write color (s.listing.alone d)

theorem isPlaced_of_mem_inspect {source : Text} {d : Diagnostic}
    (h : d ∈ (inspect source).diagnostics) : d.isPlaced = true := by
  have hfinding {severity : Severity} {es : List LexicalError}
      (hd : d ∈ (es.map finding).map (·.diagnose severity)) : d.isPlaced = true := by
    rw [List.map_map] at hd
    obtain ⟨e, -, rfl⟩ := List.mem_map.1 hd
    rfl
  rcases List.mem_append.1 h with hd | hd
  · exact hfinding hd
  · exact hfinding hd

/-- After a check all that was found is shown. -/
theorem emit_check (s : Session) (color : Bool) :
    s.check.emit color = (s.check.report.diagnostics.flatMap (s.shown color), none) := by
  have hplaced : ∀ d ∈ s.check.report.diagnostics, d.isPlaced = true :=
    fun _ hd => isPlaced_of_mem_inspect hd
  rw [emit, Listing.render_of_placed hplaced]
  simp only [Piece.write_flatMap]
  rfl

end Session

end LosslessScanner
