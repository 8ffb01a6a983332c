import LosslessScanner.Proofs.Locations
import LosslessScanner.Proofs.Number.Digits

/-!
# Carets under what a check finds

What a check finds is shown with its line, and with carets under it. The two
rows are laid out one by one, and the columns of what is found depend on all
that is in front of it: tabs go to the next tab stop, some characters take two
columns and some none. Still the carets stand exactly under a literal. The rows
begin with margins of one width, what is in front of a literal has blanks of its
own width under it (`Cell.flatMap_under`), and a literal is all digits and
points, each of them one byte and one column.

A stray character is a control, and takes no column at all. So nothing is put
under it. But the end of a line may be cut off before it is shown, and there is
one place behind a line where a caret may stand (`Cell.flatMap_under_past`). Of
the stray characters only NUL is ever cut off, so only that can have a caret,
and it has one if it is the first character that is cut off.
-/

namespace LosslessScanner

namespace Text

/-! ## Characters of ASCII -/

/-- A character of ASCII that is no control. -/
def IsGraphic (c : Char) : Prop := 0x20 ≤ c.toNat ∧ c.toNat < 0x7f

theorem width_of_graphic {c : Char} (h : IsGraphic c) : width c = 1 := by
  obtain ⟨hle, hlt⟩ := h
  have hcontrol : isControl c = false := by
    rw [← Bool.not_eq_true, isControl_iff]
    omega
  rw [width, if_pos hlt, hcontrol]
  rfl

theorem utf8Size_of_graphic {c : Char} (h : IsGraphic c) : c.utf8Size = 1 := by
  rw [Char.utf8Size_eq_one_iff, UInt32.le_iff_toNat_le]
  exact Nat.le_of_lt h.2

theorem isGraphic_of_digit {c : Char} (h : isDigit c) : IsGraphic c := by
  rw [isDigit_iff] at h
  exact ⟨by omega, by omega⟩

section Graphic

variable {t : Text} (h : ∀ c ∈ t, IsGraphic c)

include h

theorem expandTabs_of_graphic (column : Nat) : expandTabs column t = t := by
  induction t generalizing column with
  | nil => rfl
  | cons c t ih =>
      obtain ⟨hc, ht⟩ := List.forall_mem_cons.1 h
      have htab : c ≠ '\t' := by
        rintro rfl
        exact absurd hc.1 (by decide)
      rw [expandTabs, if_neg htab, ih ht]

theorem displayWidth_of_graphic : displayWidth t = t.length := by
  induction t with
  | nil => rfl
  | cons c t ih =>
      obtain ⟨hc, ht⟩ := List.forall_mem_cons.1 h
      rw [displayWidth_cons, width_of_graphic hc, ih ht, List.length_cons, Nat.add_comm]

theorem byteSize_of_graphic : t.byteSize = t.length := by
  induction t with
  | nil => rfl
  | cons c t ih =>
      obtain ⟨hc, ht⟩ := List.forall_mem_cons.1 h
      rw [byteSize_cons, utf8Size_of_graphic hc, ih ht, List.length_cons, Nat.add_comm]

end Graphic

/-- A control takes no column. -/
theorem width_of_control {c : Char} (h : isControl c = true) : width c = 0 := by
  have hcode := isControl_iff.1 h
  have hregular : irregularWidth c = none := by
    rw [irregularWidth]
    split
    · omega
    · omega
    · omega
    · omega
    · rfl
  rw [width, hregular, h]
  split
  · rfl
  · rfl

end Text

theorem Token.WellFormed.isGraphic {t : Token} (h : t.WellFormed)
    (hk : t.kind = .integer ∨ t.kind = .float64) : ∀ c ∈ t.contents, Text.IsGraphic c := by
  intro c hc
  rcases h.digit_or_point hk c hc with hdigit | rfl
  · exact Text.isGraphic_of_digit hdigit
  · exact ⟨by decide, by decide⟩

namespace Excerpt

open Text (expandTabs displayWidth)

variable (x : Excerpt)

/-- The columns in front of the excerpt in its line. -/
def indent : Nat := displayWidth (expandTabs 0 x.left)

/-- In the caret row carets stand under the excerpt, from the column that it begins in to the one
that it ends in, and nowhere else. -/
structure Underlined (severity : Severity) (shown carets remark : Text) : Prop where
  shown : row false x.number (expandTabs 0 x.left) ++ x.contents <+: x.sourceRow false shown
  carets : x.caretRow false severity carets remark =
    row false x.blanks (List.replicate x.indent ' ') ++
      List.replicate (displayWidth x.contents) '^' ++ ' ' :: remark
  aligned : displayWidth (row false x.blanks (List.replicate x.indent ' ')) =
    displayWidth (row false x.number (expandTabs 0 x.left))

/-- The margins of all rows are as wide. -/
theorem displayWidth_row (t u : Text) (h : displayWidth t = displayWidth u) :
    displayWidth (row false x.blanks t) = displayWidth (row false x.number u) := by
  have hnumber : displayWidth x.number = displayWidth x.blanks := by
    rw [blanks, Text.displayWidth_blanks]
    exact Text.displayWidth_of_graphic fun c hc =>
      Text.isGraphic_of_digit (Text.isDigit_of_mem_ofNat c hc)
  simp only [row, Text.displayWidth_append, hnumber, h]

section Graphic

variable {x} (hne : x.contents ≠ []) (h : ∀ c ∈ x.contents, Text.IsGraphic c)

include hne h

/-- Nothing is cut off an excerpt that has no controls. -/
theorem printed_of_graphic : ∃ rest, x.printed = x.left ++ x.contents ++ rest := by
  rcases x.printed_cases with hall | ⟨-, -, htrailing⟩
  · exact hall
  · obtain ⟨front, c, hc⟩ := List.eq_nil_or_concat' x.contents |>.resolve_left hne
    have hgraphic : Text.IsGraphic c := h c (by rw [hc]; simp)
    have hcut : c = '\n' ∨ c = '\r' ∨ c = '\x00' := by
      simpa using htrailing c (by rw [hc, List.getLast?_concat]; rfl)
    rcases hcut with rfl | rfl | rfl
    all_goals exact absurd hgraphic.1 (by decide)

theorem write_caretPieces_of_graphic (severity : Severity) :
    Piece.write false (x.caretPieces severity) =
      List.replicate x.indent ' ' ++ List.replicate x.contents.byteSize '^' := by
  obtain ⟨rest, hrest⟩ := printed_of_graphic hne h
  rw [write_caretPieces, hrest, range, Cell.flatMap_under _ _ _ hne,
    Text.expandTabs_of_graphic h, Text.displayWidth_of_graphic h, Text.byteSize_of_graphic h]
  rfl

theorem underlined_of_graphic (severity : Severity) (remark : Text) :
    x.Underlined severity (expandTabs 0 x.printed)
      (List.replicate x.indent ' ' ++ List.replicate x.contents.byteSize '^') remark where
  shown := by
    obtain ⟨rest, hrest⟩ := printed_of_graphic hne h
    rw [hrest, Cell.expandTabs_append, Cell.expandTabs_append, Text.expandTabs_of_graphic h]
    simp only [sourceRow, row, painted_false, List.append_assoc, List.prefix_append_right_inj,
      List.prefix_append]
  carets := by
    rw [Text.byteSize_of_graphic h, Text.displayWidth_of_graphic h]
    simp only [caretRow, row, painted_false, List.append_assoc, List.cons_append,
      List.nil_append]
  aligned := x.displayWidth_row _ _ (Text.displayWidth_blanks _)

end Graphic

/-! ## Stray characters -/

theorem count_caretRow (severity : Severity) (carets remark : Text) (h : '^' ∉ remark) :
    (x.caretRow false severity carets remark).count '^' = carets.count '^' := by
  have hblanks : x.blanks.count '^' = 0 := List.count_replicate ..
  have hborder : List.count '^' ['│'] = 0 := rfl
  have hblank : List.count '^' [' '] = 0 := rfl
  simp only [caretRow, row, painted_false, List.count_append, hblanks, hborder, hblank,
    List.count_eq_zero.2 h, Nat.zero_add, Nat.add_zero]

section Stray

variable {x} {c : Char} (hc : x.contents = [c]) (h : isStray c = true)

include hc h

/-- Of the stray characters only NUL is ever cut off the end of a line. -/
theorem printed_of_stray :
    (∃ rest, x.printed = x.left ++ x.contents ++ rest) ∨ c = '\x00' ∧ x.printed <+: x.left := by
  rcases x.printed_cases with hall | ⟨hfront, hlt, htrailing⟩
  · exact Or.inl hall
  · rw [hc] at hfront hlt
    refine Or.inr ⟨?_, (List.prefix_concat_iff.1 hfront).resolve_left hlt⟩
    have hcut : c = '\n' ∨ c = '\r' ∨ c = '\x00' := by
      simpa using htrailing c (by rw [hc]; rfl)
    rcases hcut with rfl | rfl | rfl
    · exact absurd h (by decide)
    · exact absurd h (by decide)
    · rfl

theorem displayWidth_of_stray (column : Nat) : displayWidth (expandTabs column x.contents) = 0 := by
  have htab : c ≠ '\t' := by
    rintro rfl
    exact absurd h (by decide)
  rw [hc, expandTabs, if_neg htab, Text.displayWidth_cons,
    Text.width_of_control (isStray_iff.1 h).1]
  rfl

/-- A stray character has a caret if it is NUL and the first character that is cut off its line. -/
theorem count_caretPieces_of_stray (severity : Severity) :
    (Piece.write false (x.caretPieces severity)).count '^' =
      if c = '\x00' ∧ x.printed = x.left then 1 else 0 := by
  have hne : x.contents ≠ [] := (in_line_of_stray hc h).1
  have hblanks (n : Nat) : (List.replicate n ' ').count '^' = 0 := List.count_replicate ..
  rw [write_caretPieces, range]
  rcases printed_of_stray hc h with ⟨rest, hall⟩ | ⟨hnull, hleft⟩
  · have hcut : x.printed ≠ x.left := by
      rw [hall, List.append_assoc]
      simp [hne]
    rw [if_neg fun hboth => hcut hboth.2, hall, Cell.flatMap_under _ _ _ hne,
      displayWidth_of_stray hc h, List.count_append, hblanks]
    rfl
  · have hpos : 0 < x.contents.byteSize := Nat.pos_of_ne_zero (mt Text.byteSize_eq_zero_iff.1 hne)
    rw [Cell.flatMap_under_past x.printed (Nat.lt_add_of_pos_right hpos)
      (Text.byteSize_le_of_prefix hleft), List.count_append, hblanks]
    -- The line ends in front of the character, so only the place behind it can have a caret.
    by_cases hright : x.printed = x.left
    · rw [if_pos (by rw [hright]), if_pos ⟨hnull, hright⟩]
      rfl
    · have hsize : x.left.byteSize ≠ x.printed.byteSize := fun heq =>
        hright (Text.eq_of_prefix_of_byteSize_le hleft (Nat.le_of_eq heq))
      rw [if_neg hsize, if_neg fun hboth => hright hboth.2]
      rfl

end Stray

end Excerpt

namespace Session

open Text (expandTabs)

/-- After a check of a source, each warning is shown with as many carets as its literal has bytes,
exactly under the literal, and with the remark behind them. A stray character has no caret, unless
it is a NUL right behind what is shown of its line: then it has one. -/
theorem carets_check (name source : Text) {steps : List Step}
    (h : ∀ step ∈ steps, step.source? = none) :
    let s := ((ofText name source).after steps).check
    s.emit false = (s.report.diagnostics.flatMap (s.shown false), none) ∧
    (∀ w ∈ s.report.warnings, ∃ (x : Excerpt) (kind : Kind) (fault : Fault),
      x.source = source ∧ x.token kind ∈ s.tokens ∧
      (kind = .integer ∧ fault = .invalidInteger x.contents ∨
        kind = .float64 ∧ fault = .invalidFloat x.contents) ∧
      w = finding ⟨fault, x.span⟩ ∧
      let carets := List.replicate x.indent ' ' ++ List.replicate x.contents.byteSize '^'
      s.shown false (w.diagnose .warning) =
        x.rendering false name (w.diagnose .warning) fault.remark (expandTabs 0 x.printed) carets ∧
      (∃ rest, x.printed = x.left ++ x.contents ++ rest) ∧
      x.Underlined .warning (expandTabs 0 x.printed) carets fault.remark) ∧
    ∀ e ∈ s.report.errors, ∃ (x : Excerpt) (c : Char) (carets : Text),
      let fault := Fault.undefinedToken [c]
      x.source = source ∧ x.token .undefined ∈ s.tokens ∧ x.contents = [c] ∧
      e = finding ⟨fault, x.span⟩ ∧
      s.shown false (e.diagnose .error) =
        x.rendering false name (e.diagnose .error) fault.remark (expandTabs 0 x.printed) carets ∧
      (x.caretRow false .error carets fault.remark).count '^' =
        if c = '\x00' ∧ x.printed = x.left then 1 else 0 := by
  intro s
  have hs : s = (ofText name source).check := check_after h
  rw [hs]
  refine ⟨emit_check _ false, fun w hw => ?_, fun e he => ?_⟩
  · obtain ⟨x, kind, fault, rfl, hmem, hwf, hfault, rfl⟩ := exists_of_mem_warnings hw
    have hk : kind = .integer ∨ kind = .float64 := hfault.imp And.left And.left
    have hgraphic := hwf.isGraphic hk
    refine ⟨x, kind, fault, rfl, hmem, hfault, rfl, ?_,
      Excerpt.printed_of_graphic hwf.ne_nil hgraphic,
      Excerpt.underlined_of_graphic hwf.ne_nil hgraphic .warning fault.remark⟩
    rw [shown_finding name hwf.ne_nil (hwf.lineFeed_not_mem hk), x.write_shownPieces,
      Excerpt.write_caretPieces_of_graphic hwf.ne_nil hgraphic]
  · obtain ⟨x, c, rfl, hmem, hc, hstray, rfl⟩ := exists_of_mem_errors he
    obtain ⟨hne, hfeed⟩ := Excerpt.in_line_of_stray hc hstray
    have hremark : '^' ∉ (Fault.undefinedToken [c]).remark := by
      show '^' ∉ (Fault.undefinedToken []).remark
      decide
    refine ⟨x, c, Piece.write false (x.caretPieces .error), rfl, hmem, hc, rfl, ?_, ?_⟩
    · rw [shown_finding name hne hfeed, x.write_shownPieces]
    · rw [Excerpt.count_caretRow x .error _ _ hremark,
        Excerpt.count_caretPieces_of_stray hc hstray]

/-- A literal behind a tab, with a NUL at the end of its line. -/
theorem carets_check_tab :
    let steps : List Step := [.check]
    let source : Text := '\t' :: "2147483648\x00".toList
    let s := ((ofText ['f'] source).after steps).check
    let w := finding ⟨.invalidInteger "2147483648".toList, ⟨1, 11⟩⟩
    let e := finding ⟨.undefinedToken ['\x00'], ⟨11, 12⟩⟩
    (∀ step ∈ steps, step.source? = none) ∧ w ∈ s.report.warnings ∧ e ∈ s.report.errors ∧
      (∃ x : Excerpt, x.source = source ∧ x.span = ⟨1, 11⟩ ∧
        x.Underlined .warning (expandTabs 0 x.printed)
          (List.replicate x.indent ' ' ++ List.replicate x.contents.byteSize '^')
          (Fault.invalidInteger "2147483648".toList).remark) ∧
      ∃ (x : Excerpt) (carets : Text), x.source = source ∧ x.span = ⟨11, 12⟩ ∧
        (x.caretRow false .error carets (Fault.undefinedToken ['\x00']).remark).count '^' =
          if x.printed = x.left then 1 else 0 := by
  intro steps source s w e
  have h : ∀ step ∈ steps, step.source? = none := List.forall_mem_singleton.2 rfl
  have hw : w ∈ s.report.warnings := by decide +kernel
  have he : e ∈ s.report.errors := by decide +kernel
  obtain ⟨-, hwarnings, herrors⟩ := carets_check ['f'] source h
  refine ⟨h, hw, he, ?_, ?_⟩
  · obtain ⟨x, kind, fault, hx, -, -, hfound, -, -, hunder⟩ := hwarnings w hw
    obtain ⟨rfl, hspan⟩ : Fault.invalidInteger "2147483648".toList = fault ∧ ⟨1, 11⟩ = x.span := by
      simpa only [w, finding, Finding.mk.injEq, Problem.lexical.injEq, LexicalError.mk.injEq,
        and_true] using hfound
    exact ⟨x, hx, hspan.symm, hunder⟩
  · obtain ⟨x, c, carets, hx, -, hc, hfound, -, hcount⟩ := herrors e he
    obtain ⟨rfl, hspan⟩ : '\x00' = c ∧ ⟨11, 12⟩ = x.span := by
      simpa [e, finding] using hfound
    exact ⟨x, carets, hx, hspan.symm, by simpa using hcount⟩

end Session

end LosslessScanner
