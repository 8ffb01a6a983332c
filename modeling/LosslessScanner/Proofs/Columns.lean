import Mathlib.Algebra.Ring.Nat
import Mathlib.Data.List.Basic
import LosslessScanner.Diagnostic.Snippet
import LosslessScanner.Proofs.Bytes

/-!
# The columns of a printed line

A line is printed with its tabs as blanks, so the column of a character depends
on everything in front of it. The rows of a snippet carry that along in the
cells of the line. Here a text is expanded by itself (`Text.expandTabs`), and
the columns are counted on what comes out: the cells show just that
(`Cell.flatMap_shown`), and what is put under them, blank by blank or caret by
caret, is as wide (`Cell.flatMap_replicate`).

A cell lies in front of a range, inside of it or behind it, and what stands under
it follows from that alone. So a line that is cut at the ends of a range has a
caret row in three parts: blanks, carets, and nothing.
-/

namespace LosslessScanner

namespace Text

/-- The first tab stop behind a column. -/
def nextTabStop (column : Nat) : Nat := (column / 4 + 1) * 4

/-- A text as it is printed from a column on. -/
def expandTabs (column : Nat) : Text → Text
  | [] => []
  | c :: t =>
    if c = '\t' then
      List.replicate (nextTabStop column - column) ' ' ++ expandTabs (nextTabStop column) t
    else c :: expandTabs (column + width c) t

/-- The columns that a text without tabs takes. -/
def displayWidth (t : Text) : Nat := (t.map width).sum

@[simp] theorem displayWidth_nil : displayWidth [] = 0 := rfl

@[simp] theorem displayWidth_cons (c : Char) (t : Text) :
    displayWidth (c :: t) = width c + displayWidth t := rfl

@[simp] theorem displayWidth_append (s t : Text) :
    displayWidth (s ++ t) = displayWidth s + displayWidth t := by
  rw [displayWidth, List.map_append, List.sum_append]
  rfl

theorem displayWidth_blanks (n : Nat) : displayWidth (List.replicate n ' ') = n := by
  have hblank : width ' ' = 1 := rfl
  rw [displayWidth, List.map_replicate, hblank, List.sum_replicate_nat, Nat.mul_one]

end Text

/-! ## Cells -/

namespace Cell

open Text (expandTabs nextTabStop displayWidth)

theorem widthAt_tab (column : Nat) : widthAt column '\t' = nextTabStop column - column := by
  rw [widthAt, if_pos rfl, tabWidth, nextTabStop]
  omega

theorem widthAt_of_ne {c : Char} (h : c ≠ '\t') (column : Nat) : widthAt column c = Text.width c :=
  if_neg h

theorem displayWidth_shown (offset column : Nat) (c : Char) :
    displayWidth (ofChar offset column c).shown = widthAt column c := by
  by_cases hc : c = '\t'
  · simp only [ofChar, if_pos hc, Text.displayWidth_blanks]
  · simp only [ofChar, if_neg hc, widthAt_of_ne hc, Text.displayWidth_cons, Text.displayWidth_nil,
      Nat.add_zero]

theorem expandTabs_cons (offset column : Nat) (c : Char) (t : Text) :
    expandTabs column (c :: t) =
      (ofChar offset column c).shown ++ expandTabs (column + widthAt column c) t := by
  by_cases hc : c = '\t'
  · subst hc
    have hstop : column + widthAt column '\t' = nextTabStop column := by
      rw [widthAt_tab, nextTabStop]
      omega
    rw [hstop, expandTabs, if_pos rfl, ← widthAt_tab]
    rfl
  · simp only [expandTabs, ofChar, if_neg hc, widthAt_of_ne hc, List.singleton_append]

/-- The cells show the text with its tabs expanded. -/
theorem flatMap_shown (offset column : Nat) (t : Text) :
    (ofText offset column t).flatMap shown = expandTabs column t := by
  induction t generalizing offset column with
  | nil => rfl
  | cons c t ih => rw [ofText, List.flatMap_cons, ih, ← expandTabs_cons]

/-- What fills the cells with a character is as wide as what they show. -/
theorem flatMap_replicate (offset column : Nat) (t : Text) (d : Char) :
    (ofText offset column t).flatMap (fun cell => List.replicate cell.width d) =
      List.replicate (displayWidth (expandTabs column t)) d := by
  induction t generalizing offset column with
  | nil => rfl
  | cons c t ih =>
      have hwidth : (ofChar offset column c).width = widthAt column c := rfl
      rw [ofText, List.flatMap_cons, ih, expandTabs_cons offset, Text.displayWidth_append,
        displayWidth_shown, ← List.replicate_append_replicate, hwidth]

theorem ofText_append (offset column : Nat) (s t : Text) :
    ofText offset column (s ++ t) = ofText offset column s ++
      ofText (offset + s.byteSize) (column + displayWidth (expandTabs column s)) t := by
  induction s generalizing offset column with
  | nil => rfl
  | cons c s ih =>
      rw [List.cons_append, ofText, ih, ofText, expandTabs_cons offset, Text.displayWidth_append,
        displayWidth_shown, Text.byteSize_cons, Nat.add_assoc, Nat.add_assoc, List.cons_append]

theorem expandTabs_append (column : Nat) (s t : Text) :
    expandTabs column (s ++ t) =
      expandTabs column s ++ expandTabs (column + displayWidth (expandTabs column s)) t := by
  rw [← flatMap_shown 0 column (s ++ t), ofText_append, List.flatMap_append, flatMap_shown,
    flatMap_shown]

theorem bounds_of_mem_ofText {offset column : Nat} {t : Text} {cell : Cell}
    (h : cell ∈ ofText offset column t) :
    offset ≤ cell.offset ∧ cell.offset + cell.size ≤ offset + t.byteSize ∧ 0 < cell.size := by
  induction t generalizing offset column with
  | nil => exact absurd h List.not_mem_nil
  | cons c t ih =>
      rw [Text.byteSize_cons]
      rcases List.mem_cons.1 h with rfl | hmem
      · refine ⟨Nat.le_refl _, ?_, c.utf8Size_pos⟩
        show offset + c.utf8Size ≤ _
        omega
      · obtain ⟨hle, hstop, hpos⟩ := ih hmem
        exact ⟨by omega, by omega, hpos⟩

/-! ## What stands under them -/

variable {range : Span} {cell : Cell}

theorem under_in_front (h : cell.offset + cell.size ≤ range.start) (hpos : 0 < cell.size)
    (hrange : range.start < range.stop) : cell.under range = List.replicate cell.width ' ' := by
  have hout : ¬ cell.within range = true := by
    rw [within, Bool.and_eq_true, decide_eq_true_eq]
    omega
  rw [under, if_neg hout, if_pos (by omega)]

theorem under_inside (hstart : range.start ≤ cell.offset)
    (hstop : cell.offset + cell.size ≤ range.stop) (hpos : 0 < cell.size) :
    cell.under range = List.replicate cell.width '^' := by
  have hin : cell.within range = true := by
    rw [within, Bool.and_eq_true, decide_eq_true_eq, decide_eq_true_eq]
    omega
  rw [under, if_pos hin]

theorem under_behind (h : range.stop ≤ cell.offset) : cell.under range = [] := by
  have hout : ¬ cell.within range = true := by
    rw [within, Bool.and_eq_true, decide_eq_true_eq, decide_eq_true_eq]
    omega
  rw [under, if_neg hout, if_neg (by omega)]

variable {offset : Nat} (column : Nat) {t : Text}

theorem flatMap_under_in_front (h : offset + t.byteSize ≤ range.start)
    (hrange : range.start < range.stop) :
    (ofText offset column t).flatMap (under range) =
      List.replicate (displayWidth (expandTabs column t)) ' ' := by
  rw [← flatMap_replicate offset]
  refine List.flatMap_congr fun cell hcell => ?_
  obtain ⟨-, hle, hpos⟩ := bounds_of_mem_ofText hcell
  exact under_in_front (by omega) hpos hrange

theorem flatMap_under_inside (hstart : range.start ≤ offset)
    (hstop : offset + t.byteSize ≤ range.stop) :
    (ofText offset column t).flatMap (under range) =
      List.replicate (displayWidth (expandTabs column t)) '^' := by
  rw [← flatMap_replicate offset]
  refine List.flatMap_congr fun cell hcell => ?_
  obtain ⟨hle, hlast, hpos⟩ := bounds_of_mem_ofText hcell
  exact under_inside (by omega) (by omega) hpos

theorem flatMap_under_behind (h : range.stop ≤ offset) :
    (ofText offset column t).flatMap (under range) = [] := by
  rw [List.flatMap_eq_nil_iff]
  intro cell hcell
  obtain ⟨hle, -, -⟩ := bounds_of_mem_ofText hcell
  exact under_behind (by omega)

/-- What stands under a line that has all of a range in it: blanks up to the range, carets under
it, and nothing behind it. -/
theorem flatMap_under (left piece right : Text) (h : piece ≠ []) :
    (ofText 0 0 (left ++ piece ++ right) ++ [behind (left ++ piece ++ right)]).flatMap
        (under ⟨left.byteSize, left.byteSize + piece.byteSize⟩) =
      List.replicate (displayWidth (expandTabs 0 left)) ' ' ++
        List.replicate
          (displayWidth (expandTabs (displayWidth (expandTabs 0 left)) piece)) '^' := by
  have hpiece : piece.byteSize ≠ 0 := mt Text.byteSize_eq_zero_iff.1 h
  have hend : left.byteSize + piece.byteSize ≤ (left ++ piece ++ right).byteSize := by
    rw [Text.byteSize_append, Text.byteSize_append]
    exact Nat.le_add_right _ _
  have hbehind : (behind (left ++ piece ++ right)).under
      ⟨left.byteSize, left.byteSize + piece.byteSize⟩ = [] := under_behind hend
  rw [List.flatMap_append, List.flatMap_singleton, hbehind, List.append_nil, ofText_append,
    ofText_append, List.flatMap_append, List.flatMap_append, Text.byteSize_append, Nat.zero_add,
    Nat.zero_add, Nat.zero_add,
    flatMap_under_in_front 0 (Nat.le_of_eq (Nat.zero_add _)) (Nat.lt_add_of_pos_right (by omega)),
    flatMap_under_inside _ (Nat.le_refl _) (Nat.le_refl _),
    flatMap_under_behind _ (Nat.le_refl _), List.append_nil]

/-- What stands under a line that ends in front of a range: blanks, and a caret if the range begins
right behind the line. -/
theorem flatMap_under_past (line : Text) {range : Span} (hrange : range.start < range.stop)
    (h : line.byteSize ≤ range.start) :
    (ofText 0 0 line ++ [behind line]).flatMap (under range) =
      List.replicate (displayWidth (expandTabs 0 line)) ' ' ++
        if range.start = line.byteSize then ['^'] else [' '] := by
  rw [List.flatMap_append, List.flatMap_singleton,
    flatMap_under_in_front 0 (by rwa [Nat.zero_add]) hrange]
  congr 1
  have hoffset : (behind line).offset = line.byteSize := rfl
  have hsize : (behind line).size = 1 := rfl
  split
  · next hstart =>
      have hin : (behind line).within range = true := by
        rw [within, Bool.and_eq_true, decide_eq_true_eq, decide_eq_true_eq]
        omega
      rw [under, if_pos hin]
      rfl
  · next hstart => exact under_in_front (by omega) (by omega) hrange

end Cell

/-! ## Marked chunks -/

namespace Piece

@[simp] theorem write_nil (color : Bool) : write color [] = [] := rfl

@[simp] theorem write_text_cons (color : Bool) (t : Text) (ps : List Piece) :
    write color (.text t :: ps) = t ++ write color ps := by
  cases color with
  | false => rfl
  | true => rfl

@[simp] theorem write_styled (style : Style) (t : Text) : write false (styled style t) = t :=
  List.append_nil t

/-- Without color it makes no difference which chunks of a text are marked. -/
theorem write_highlight (style : Style) (on : Bool) (chunks : List (Bool × Text)) :
    write false (highlight style on chunks) = chunks.flatMap Prod.snd := by
  induction chunks generalizing on with
  | nil =>
      cases on with
      | false => rfl
      | true => rfl
  | cons chunk chunks ih =>
      obtain ⟨marked, t⟩ := chunk
      rw [List.flatMap_cons, ← ih marked, ← write_text_cons]
      cases on with
      | false =>
          cases marked with
          | false => rfl
          | true => rfl
      | true =>
          cases marked with
          | false => rfl
          | true => rfl

end Piece

end LosslessScanner
