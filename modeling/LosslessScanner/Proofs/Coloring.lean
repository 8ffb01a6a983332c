import LosslessScanner.Proofs.Escapes
import LosslessScanner.Proofs.Interruption
import LosslessScanner.Proofs.Locations

/-!
# What color adds

With color a report is written with escape sequences between its stretches of
text. They can be taken out again without knowing where they were put in, if no
stretch of text has the escape character in it: then every sequence that is
found is one of them, and what is left is the report without color.

So all depends on what is shown. A source line is cut where a label begins and
ends in it, and the cuts fall between characters. Without color the parts join
up to the line again (`Piece.write_highlight`), so its characters are those of
the listing and blanks for tabs, whether the label is in one line or goes over
several. What is drawn beside and under the lines are strokes. What remains is
the messages. They quote the texts of the findings. A stray character is quoted
with escapes of its own, which are printable, so even if a source has the escape
character in it, what a check says of it does not.
-/

namespace LosslessScanner

/-! ## Taking the sequences out -/

namespace Text

/-- A text without the renditions in it: `ESC [` is left out with all that follows up to the
first `m`. If there is no `m` it is no rendition. -/
def withoutRenditions : Text → Text
  | [] => []
  | '\x1b' :: '[' :: t =>
    if 'm' ∈ t then withoutRenditions (t.dropWhile (· ≠ 'm')).tail else '\x1b' :: '[' :: t
  | c :: t => c :: withoutRenditions t
termination_by t => t.length
decreasing_by
  · have hsuffix := (List.dropWhile_suffix (l := t) (· ≠ 'm')).length_le
    simp only [List.length_tail, List.length_cons]
    omega
  · exact Nat.lt_succ_self _

theorem withoutRenditions_cons {c : Char} (h : c ≠ '\x1b') (t : Text) :
    withoutRenditions (c :: t) = c :: withoutRenditions t := by
  rw [withoutRenditions]
  intro _ hc
  exact absurd hc h

theorem withoutRenditions_append {s : Text} (h : '\x1b' ∉ s) (t : Text) :
    withoutRenditions (s ++ t) = s ++ withoutRenditions t := by
  induction s with
  | nil => rfl
  | cons c s ih =>
      rw [List.mem_cons, not_or] at h
      obtain ⟨hc, hs⟩ := h
      rw [List.cons_append, withoutRenditions_cons (Ne.symm hc), ih hs, List.cons_append]

theorem withoutRenditions_rendition {parameters : String} (h : 'm' ∉ parameters.toList)
    (t : Text) :
    withoutRenditions (Piece.rendition parameters ++ t) = withoutRenditions t := by
  have hparameters : ∀ c ∈ parameters.toList, decide (c ≠ 'm') = true := by
    intro c hc
    exact decide_eq_true (ne_of_mem_of_not_mem hc h)
  have hrendition : Piece.rendition parameters ++ t =
      '\x1b' :: '[' :: (parameters.toList ++ 'm' :: t) := by
    simp [Piece.rendition]
  have hend : (parameters.toList ++ 'm' :: t).dropWhile (· ≠ 'm') = 'm' :: t := by
    rw [List.dropWhile_append_of_pos hparameters, List.dropWhile_cons_of_neg (by decide)]
  rw [hrendition, withoutRenditions, if_pos (by simp), hend, List.tail_cons]

example : withoutRenditions "\x1b[0m\x1b[38;5;9merror\x1b[0m [m".toList = "error [m".toList := by
  decide +kernel

end Text

namespace Piece

open Text (withoutRenditions)

theorem withoutRenditions_colored {p : Piece} (h : '\x1b' ∉ p.plain) (t : Text) :
    withoutRenditions (p.colored ++ t) = p.plain ++ withoutRenditions t := by
  cases p with
  | text s => exact Text.withoutRenditions_append h t
  | reset => exact Text.withoutRenditions_rendition (by decide) t
  | set style =>
      have hstyle : withoutRenditions (renditionOf style ++ t) = withoutRenditions t := by
        rcases style with severity | _ | severity | _
        · cases severity with
          | error | warning =>
              rw [renditionOf, List.append_assoc, Text.withoutRenditions_rendition (by decide),
                Text.withoutRenditions_rendition (by decide)]
        · exact Text.withoutRenditions_rendition (by decide) t
        · cases severity with
          | error | warning => exact Text.withoutRenditions_rendition (by decide) t
        · exact Text.withoutRenditions_rendition (by decide) t
      rw [colored, List.append_assoc, Text.withoutRenditions_rendition (by decide), hstyle]
      rfl

/-- If nothing that is written without color has the escape character in it, then this is what
is left of what is written with color. -/
theorem withoutRenditions_write {ps : List Piece} (h : '\x1b' ∉ write false ps) :
    withoutRenditions (write true ps) = write false ps := by
  have hcons (color : Bool) (p : Piece) (ps : List Piece) : write color (p :: ps) =
      (if color then p.colored else p.plain) ++ write color ps := by
    cases color with
    | false => rfl
    | true => rfl
  induction ps with
  | nil => rw [write_nil, write_nil, withoutRenditions]
  | cons p ps ih =>
      rw [hcons, List.mem_append, not_or] at h
      rw [hcons, hcons]
      exact (withoutRenditions_colored h.1 _).trans (congrArg _ (ih h.2))

end Piece

/-! ## What is shown of a source -/

theorem Text.mem_of_mem_expandTabs {column : Nat} {t : Text} {c : Char}
    (h : c ∈ Text.expandTabs column t) : c = ' ' ∨ c ∈ t := by
  induction t generalizing column with
  | nil => exact absurd h List.not_mem_nil
  | cons d t ih =>
      rw [Text.expandTabs] at h
      split at h
      · rcases List.mem_append.1 h with hblank | ht
        · exact Or.inl (List.eq_of_mem_replicate hblank)
        · exact (ih ht).imp_right (List.mem_cons_of_mem d)
      · rcases List.mem_cons.1 h with rfl | ht
        · exact Or.inr List.mem_cons_self
        · exact (ih ht).imp_right (List.mem_cons_of_mem d)

theorem Text.escape_not_mem_expandTabs {t : Text} (h : '\x1b' ∉ t) :
    '\x1b' ∉ Text.expandTabs 0 t := by
  intro hmem
  rcases Text.mem_of_mem_expandTabs hmem with hblank | ht
  · exact absurd hblank (by decide)
  · exact h ht

theorem Cell.mem_under {range : Span} {cell : Cell} {c : Char} (h : c ∈ cell.under range) :
    c = '^' ∨ c = ' ' := by
  rw [Cell.under] at h
  split at h
  · exact Or.inl (List.eq_of_mem_replicate h)
  · split at h
    · exact Or.inr (List.eq_of_mem_replicate h)
    · exact absurd h List.not_mem_nil

theorem SourceLine.flatMap_shown_cells (line : SourceLine) :
    line.cells.flatMap Cell.shown = Text.expandTabs 0 line.shown :=
  Cell.flatMap_shown 0 0 line.shown

/-! ## What stands in the margin -/

namespace Margin

theorem write_blank (width : Nat) (border : Text) :
    Piece.write false (blank width border) =
      List.replicate width ' ' ++ [' '] ++ border := by
  simp [blank]

theorem write_numbered (width number : Nat) :
    Piece.write false (numbered width number) =
      Text.padLeft width (Text.ofNat number) ++ [' ', '│'] := by
  simp [numbered]

theorem escape_not_mem_numbered (width number : Nat) :
    '\x1b' ∉ Piece.write false (numbered width number) := by
  have hdigits : '\x1b' ∉ Text.ofNat number := Text.not_mem_ofNat rfl number
  simp [write_numbered, Text.padLeft, hdigits]

theorem escape_not_mem_placeRow {name : Text} (h : '\x1b' ∉ name) (width : Nat)
    (line : SourceLine) (label : Label) :
    '\x1b' ∉ Piece.write false (placeRow width name line label) := by
  have hdigits (n : Nat) : '\x1b' ∉ Text.ofNat n := Text.not_mem_ofNat rfl n
  simp [placeRow, write_blank, place, h, hdigits]

end Margin

/-! ## What stands in a snippet -/

namespace Snippet

variable (s : Snippet)

/-- The parts into which the line is cut join up to the line. -/
theorem write_sourceRow :
    Piece.write false s.sourceRow =
      Piece.write false (Margin.numbered s.width s.line.number) ++ [' ']
        ++ Text.expandTabs 0 s.line.shown ++ ['\n'] := by
  simp [sourceRow, Piece.write_highlight, List.flatMap_map, s.line.flatMap_shown_cells]

theorem write_caretRow :
    Piece.write false s.caretRow =
      Piece.write false (Margin.blank s.width ['│']) ++ [' ']
        ++ (s.line.cells ++ [Cell.behind s.line.shown]).flatMap (Cell.under s.range)
        ++ [' '] ++ s.label.remark ++ ['\n'] := by
  simp [caretRow, Piece.write_highlight, List.flatMap_map]

variable {s}

theorem escape_not_mem_rows (hname : '\x1b' ∉ s.name) (hline : '\x1b' ∉ s.line.shown)
    (hremark : '\x1b' ∉ s.label.remark) : '\x1b' ∉ Piece.write false s.rows := by
  have hplace := Margin.escape_not_mem_placeRow hname s.width s.line s.label
  have hnumber := Margin.escape_not_mem_numbered s.width s.line.number
  have hsource := Text.escape_not_mem_expandTabs hline
  have hcarets (cell : Cell) : '\x1b' ∉ cell.under s.range := by
    intro h
    rcases Cell.mem_under h with hcaret | hblank
    · exact absurd hcaret (by decide)
    · exact absurd hblank (by decide)
  rw [rows, Piece.write_append, Piece.write_append, Piece.write_append, write_sourceRow,
    write_caretRow]
  simp [borderRow, Margin.write_blank, hplace, hnumber, hsource, hcarets, hremark]

end Snippet

/-! ## What stands in a passage -/

namespace Passage

variable (p : Passage)

@[simp] theorem write_stroke (t : Text) : Piece.write false (p.stroke t) = ' ' :: t := by
  simp [stroke]

@[simp] theorem write_noStroke : Piece.write false noStroke = [' ', ' '] := rfl

theorem escape_not_mem_bracket (line : SourceLine) :
    '\x1b' ∉ Piece.write false (p.bracket line) := by
  rw [bracket]
  split
  · split
    · simp
    · simp
  · simp
  · simp
  · simp

theorem escape_not_mem_bracketBehind (line : SourceLine) :
    '\x1b' ∉ Piece.write false (p.bracketBehind line) := by
  rw [bracketBehind]
  split
  · simp
  · simp
  · simp
  · simp

theorem escape_not_mem_rule (cells : List Cell) : '\x1b' ∉ rule cells := by
  simp [rule]

/-- What is set off in a line and what is not join up to the line. -/
theorem write_sourceRow (line : SourceLine) :
    Piece.write false (p.sourceRow line) =
      Piece.write false (Margin.numbered p.width line.number) ++ Piece.write false (p.bracket line)
        ++ [' '] ++ Text.expandTabs 0 line.shown ++ ['\n'] := by
  simp [sourceRow, Piece.write_highlight, List.flatMap_map, line.flatMap_shown_cells]

theorem escape_not_mem_endRow {corner : Char} (hcorner : '\x1b' ≠ corner) {t : Text}
    (h : '\x1b' ∉ t) : '\x1b' ∉ Piece.write false (p.endRow corner t) := by
  simp [endRow, Margin.write_blank, hcorner, h]

theorem escape_not_mem_breakRow (line : SourceLine) :
    '\x1b' ∉ Piece.write false (p.breakRow line) := by
  simp [breakRow, Margin.write_blank, p.escape_not_mem_bracketBehind line]

variable {p} (hname : '\x1b' ∉ p.name) (hlines : ∀ line ∈ p.lines, '\x1b' ∉ line.shown)
  (hremark : '\x1b' ∉ p.label.remark)

include hremark in
theorem escape_not_mem_caretRow (line : SourceLine) :
    '\x1b' ∉ Piece.write false (p.caretRow line) := by
  rw [caretRow]
  split
  · split
    · exact List.not_mem_nil
    · exact p.escape_not_mem_endRow (by decide) (by simp [escape_not_mem_rule])
  · exact p.escape_not_mem_endRow (by decide) (by simp [escape_not_mem_rule, hremark])
  · exact List.not_mem_nil
  · exact List.not_mem_nil

include hlines hremark

theorem escape_not_mem_lineRows {line : SourceLine} (hline : line ∈ p.lines) :
    '\x1b' ∉ Piece.write false (p.lineRows line) := by
  have hnumber := Margin.escape_not_mem_numbered p.width line.number
  have hsource := Text.escape_not_mem_expandTabs (hlines line hline)
  have hcarets := escape_not_mem_caretRow hremark line
  rw [lineRows, Piece.write_append, write_sourceRow]
  simp [hnumber, p.escape_not_mem_bracket line, hsource, hcarets]

theorem escape_not_mem_rowsBetween (line next : SourceLine) :
    '\x1b' ∉ Piece.write false (p.rowsBetween line next) := by
  rw [rowsBetween]
  split
  · exact List.not_mem_nil
  · next l hl =>
      have hmem : l ∈ p.lines := List.mem_of_mem_filter (hl ▸ List.mem_singleton_self l)
      exact escape_not_mem_lineRows hlines hremark hmem
  · exact p.escape_not_mem_breakRow line

theorem escape_not_mem_rowsOf {lines : List SourceLine} (hkept : lines ⊆ p.lines) :
    '\x1b' ∉ Piece.write false (p.rowsOf lines) := by
  induction lines with
  | nil => exact List.not_mem_nil
  | cons line rest ih =>
      obtain ⟨hline, hrest⟩ := List.cons_subset.1 hkept
      have hfirst := escape_not_mem_lineRows hlines hremark hline
      cases rest with
      | nil => exact hfirst
      | cons next rest =>
          rw [rowsOf, Piece.write_append, Piece.write_append]
          exact List.not_mem_append
            (List.not_mem_append hfirst (escape_not_mem_rowsBetween hlines hremark line next))
            (ih hrest)

include hname in
theorem escape_not_mem_rows : '\x1b' ∉ Piece.write false p.rows := by
  have hplace := Margin.escape_not_mem_placeRow hname p.width p.first p.label
  have hsubset : p.lines.filter p.isKept ⊆ p.lines := List.filter_sublist.subset
  have hkept := escape_not_mem_rowsOf hlines hremark hsubset
  rw [rows, Piece.write_append, Piece.write_append]
  simp [borderRow, Margin.write_blank, hplace, hkept]

end Passage

/-! ## What is said of a finding -/

/-- The text that a fault was made with. -/
def Fault.text : Fault → Text
  | undefinedToken text | invalidInteger text | invalidFloat text => text
  | notALiteral _ => []

/-- The text that a problem was made with. -/
def Problem.text : Problem → Text
  | lexical e => e.fault.text
  | file reason | other reason => reason

theorem Fault.escape_not_mem_remark (fault : Fault) : '\x1b' ∉ fault.remark := by
  cases fault with
  | undefinedToken text =>
      show '\x1b' ∉ "this character is not part of the language".toList
      decide +kernel
  | invalidInteger literal =>
      show '\x1b' ∉ "does not fit in a 32-bit signed integer".toList
      decide +kernel
  | invalidFloat literal =>
      show '\x1b' ∉ "not a valid 64-bit float".toList
      decide +kernel
  | notALiteral kind =>
      show '\x1b' ∉ "expected an integer or float here".toList
      decide +kernel

theorem Fault.escape_not_mem_message {fault : Fault} (h : '\x1b' ∉ fault.text) :
    '\x1b' ∉ fault.message := by
  cases fault with
  | undefinedToken text =>
      have htext : '\x1b' ∉ Text.quoted text := Text.not_mem_quoted (by decide) text
      show '\x1b' ∉ "unrecognized character ".toList ++ Text.quoted text
      simp [htext]
  | invalidInteger literal =>
      have hliteral : '\x1b' ∉ literal := h
      show '\x1b' ∉ "invalid integer literal '".toList ++ literal ++ ['\'']
      simp [hliteral]
  | invalidFloat literal =>
      have hliteral : '\x1b' ∉ literal := h
      show '\x1b' ∉
        "invalid double-precision floating point literal '".toList ++ literal ++ ['\'']
      simp [hliteral]
  | notALiteral kind =>
      show '\x1b' ∉ "expected a numeric literal, found ".toList ++ kind.name
      have hkind : '\x1b' ∉ kind.name := kind.not_mem_name rfl
      simp [hkind]

theorem Problem.escape_not_mem_message {p : Problem} (h : '\x1b' ∉ p.text) :
    '\x1b' ∉ p.message := by
  cases p with
  | lexical e =>
      show '\x1b' ∉ "lexical error: ".toList ++ e.fault.message
      simp [Fault.escape_not_mem_message h]
  | file reason =>
      have hreason : '\x1b' ∉ reason := h
      show '\x1b' ∉ "file error: ".toList ++ reason
      simp [hreason]
  | other reason => exact h

namespace Listing

/-- What a listing shows begins with a headline, unless it shows nothing. -/
theorem render_eq_nil_or_headline (l : Listing) (ds : List Diagnostic) :
    (l.render ds).1 = [] ∨ ∃ d rest, (l.render ds).1 = headline d ++ rest := by
  cases ds with
  | nil => exact Or.inl rfl
  | cons d ds =>
      rw [render]
      by_cases h : d.isPlaced = true
      · obtain ⟨hrender, more, hmore⟩ := render?_of_placed (l := l) h
        rw [hrender, ← hmore]
        exact Or.inr ⟨d, _, List.append_assoc _ _ _⟩
      · rw [render?_of_not_placed (eq_false_of_ne_true h)]
        exact Or.inl rfl

section Plain

variable {l : Listing} (hname : '\x1b' ∉ l.name) (htext : '\x1b' ∉ l.text)

include hname htext

theorem escape_not_mem_rows (severity : Severity) {label : Label}
    (hremark : '\x1b' ∉ label.remark) : '\x1b' ∉ Piece.write false (l.rows severity label) := by
  have hlines : ∀ line ∈ SourceLine.all l.text, '\x1b' ∉ line.shown := by
    intro line hline hmem
    exact htext (SourceLine.mem_of_mem_shown hline hmem)
  rw [rows]
  split
  · exact Snippet.escape_not_mem_rows hname (hlines _ (SourceLine.containing_mem_all _ _)) hremark
  · exact Passage.escape_not_mem_rows hname hlines hremark

/-- What a listing shows of a finding has the escape character in it only if the message has. -/
theorem escape_not_mem_alone {f : Finding} (severity : Severity)
    (hmessage : '\x1b' ∉ f.problem.message) :
    '\x1b' ∉ Piece.write false (l.alone (f.diagnose severity)) := by
  have hheadline : '\x1b' ∉ Piece.write false (headline (f.diagnose severity)) := by
    have hseverity : '\x1b' ∉ severity.name := by
      cases severity
      all_goals decide
    show '\x1b' ∉ severity.name ++ ([':', ' '] ++ f.problem.message ++ ['\n'])
    simp [hseverity, hmessage]
  have hfeed : '\x1b' ∉ Piece.write false [.text ['\n']] := by decide
  obtain ⟨problem, file⟩ := f
  cases problem with
  | file reason | other reason =>
      rw [alone_of_render? rfl, Piece.write_append]
      exact List.not_mem_append hheadline hfeed
  | lexical e =>
      by_cases hfile : file = 0
      · subst hfile
        have hrows : '\x1b' ∉ Piece.write false
            (l.rows severity ⟨0, e.span, e.fault.remark⟩) :=
          escape_not_mem_rows hname htext severity e.fault.escape_not_mem_remark
        rw [alone_of_render? rfl, Piece.write_append, Piece.write_append]
        exact List.not_mem_append (List.not_mem_append hheadline hrows) hfeed
      · have hrender : l.render? (Finding.diagnose severity ⟨.lexical e, file⟩) = none :=
          render?_of_not_placed (decide_eq_false hfile)
        rw [alone, render, hrender]
        exact List.not_mem_nil

end Plain

end Listing

namespace Session

/-- A check says nothing with the escape character in it, even of a source that has it. -/
theorem escape_not_mem_found (source : Text) :
    ∀ entry ∈ (inspect source).entries, '\x1b' ∉ entry.2.problem.message := by
  intro entry hentry
  rcases List.mem_append.1 hentry with herror | hwarning
  · obtain ⟨f, hf, rfl⟩ := List.mem_map.1 herror
    obtain ⟨x, c, -, -, -, -, rfl⟩ := exists_of_mem_errors hf
    have hc : '\x1b' ∉ Text.quoted [c] := Text.not_mem_quoted (by decide) [c]
    show '\x1b' ∉ "lexical error: ".toList ++
      ("unrecognized character ".toList ++ Text.quoted [c])
    simp [hc]
  · obtain ⟨f, hf, rfl⟩ := List.mem_map.1 hwarning
    obtain ⟨x, kind, fault, -, -, hwf, hfault, rfl⟩ := exists_of_mem_warnings hf
    have hcontents : '\x1b' ∉ x.contents := by
      intro h
      rcases hwf.digit_or_point (hfault.imp And.left And.left) _ h with hdigit | hpoint
      · exact absurd hdigit (by decide)
      · exact absurd hpoint (by decide)
    refine Problem.escape_not_mem_message ?_
    rcases hfault with ⟨-, rfl⟩ | ⟨-, rfl⟩
    · exact hcontents
    · exact hcontents

/-- What is shown without color has no escape character in it if the listing has none and no
message has one. -/
theorem escape_not_mem_emit {s : Session} (hname : '\x1b' ∉ s.listing.name)
    (htext : '\x1b' ∉ s.listing.text)
    (hmessages : ∀ entry ∈ s.report.entries, '\x1b' ∉ entry.2.problem.message) :
    '\x1b' ∉ (s.emit false).1 := by
  intro h
  rw [emit, Listing.render_eq] at h
  simp only [Piece.write_flatMap, List.mem_flatMap] at h
  obtain ⟨d, hd, hmem⟩ := h
  have hfound := (List.takeWhile_prefix _).subset hd
  rw [Report.diagnostics_eq] at hfound
  obtain ⟨entry, hentry, rfl⟩ := List.mem_map.1 hfound
  exact Listing.escape_not_mem_alone hname htext entry.1 (hmessages entry hentry) hmem

/-- Color adds something to whatever is shown. -/
theorem emit_color_eq_iff {s : Session} (h : '\x1b' ∉ (s.emit false).1) :
    (s.emit true).1 = (s.emit false).1 ↔ (s.emit false).1 = [] := by
  have hemit (color : Bool) : (s.emit color).1 =
      Piece.write color (s.listing.render s.report.diagnostics).1 := rfl
  rcases s.listing.render_eq_nil_or_headline s.report.diagnostics with hnil | ⟨d, rest, hhead⟩
  · rw [hemit, hemit, hnil]
    exact iff_of_true rfl rfl
  · -- a headline begins with a rendition, and it has a text
    have hescape : '\x1b' ∈ (s.emit true).1 := by
      rw [hemit, hhead]
      exact List.mem_cons_self
    have hfeed : '\n' ∈ (s.emit false).1 := by
      rw [hemit, hhead, Piece.write_append]
      show '\n' ∈ d.severity.name ++ ([':', ' '] ++ d.message ++ ['\n']) ++ _
      simp
    refine iff_of_false (fun heq => h (heq ▸ hescape)) (fun hnil => ?_)
    rw [hnil] at hfeed
    exact absurd hfeed List.not_mem_nil

/-- Color adds renditions to what is shown, and nothing else. Whatever has been done to a session,
if neither the text that it began with nor its name nor a text of what was added has the escape
character in it, then taking the renditions out leaves what is shown without color, and showing it
fails with color if and only if it fails without. -/
theorem emit_color_after {name source : Text} {steps : List Step} (hname : '\x1b' ∉ name)
    (hsource : '\x1b' ∉ source)
    (hadded : ∀ step ∈ steps, ∀ f, step.error? = some f ∨ step.warning? = some f →
      '\x1b' ∉ f.problem.text) :
    let s := (ofText name source).after steps
    (s.emit true).1.withoutRenditions = (s.emit false).1 ∧
      ((s.emit true).1 = (s.emit false).1 ↔ (s.emit false).1 = []) ∧
      (s.emit true).2 = (s.emit false).2 := by
  intro s
  have hlisting : s.listing = ⟨name, source⟩ := listing_after _ steps
  have hmessages : ∀ entry ∈ s.report.entries, '\x1b' ∉ entry.2.problem.message :=
    forall_entries_after escape_not_mem_found
      (fun step hstep f hf => Problem.escape_not_mem_message (hadded step hstep f hf)) nofun
  have hplain : '\x1b' ∉ (s.emit false).1 := by
    refine escape_not_mem_emit ?_ ?_ hmessages
    · rwa [hlisting]
    · rwa [hlisting]
  exact ⟨Piece.withoutRenditions_write hplain, emit_color_eq_iff hplain, rfl⟩

/-- A stray character with a label on it, and findings from outside, of which the last is in a
file that is not there. -/
theorem emit_color_after_label :
    let name : Text := ['f']
    let source : Text := "x\x01 = 1;".toList
    let added : List Finding :=
      [⟨.other "gone".toList, 3⟩, ⟨.lexical ⟨.invalidFloat "1.5".toList, ⟨0, 2⟩⟩, 0⟩,
        ⟨.lexical ⟨.notALiteral .comma, ⟨1, 1⟩⟩, 7⟩]
    let steps : List Step := .check :: added.map .addWarning
    let s := (ofText name source).after steps
    '\x1b' ∉ name ∧ '\x1b' ∉ source ∧
      (∀ step ∈ steps, ∀ f, step.error? = some f ∨ step.warning? = some f →
        '\x1b' ∉ f.problem.text) ∧
      (s.emit true).1.withoutRenditions = (s.emit false).1 ∧
      ((s.emit true).1 = (s.emit false).1 ↔ (s.emit false).1 = []) ∧
      (s.emit true).2 = (s.emit false).2 := by
  intro name source added steps s
  have hname : '\x1b' ∉ name := by decide
  have hsource : '\x1b' ∉ source := by decide
  have htexts : ∀ f ∈ added, '\x1b' ∉ f.problem.text := by decide
  have hadded : ∀ step ∈ steps, ∀ f, step.error? = some f ∨ step.warning? = some f →
      '\x1b' ∉ f.problem.text := by
    intro step hstep f hf
    rcases List.mem_cons.1 hstep with rfl | hmem
    · simp [Step.error?, Step.warning?] at hf
    · obtain ⟨g, hg, rfl⟩ := List.mem_map.1 hmem
      obtain rfl : g = f := by simpa [Step.error?, Step.warning?] using hf
      exact htexts g hg
  exact ⟨hname, hsource, hadded, emit_color_after hname hsource hadded⟩

end Session

end LosslessScanner
