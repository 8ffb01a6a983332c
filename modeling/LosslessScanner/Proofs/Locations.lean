import LosslessScanner.Proofs.Columns
import LosslessScanner.Proofs.Emission
import LosslessScanner.Proofs.Excerpt
import LosslessScanner.Proofs.History
import LosslessScanner.Proofs.LiteralWarnings

/-!
# Where a check says that something is

A check finds its errors among tokens, which know their bytes. Shown to a person
they have a line and a column, and the line itself. These come from another
count over the same text, which knows no tokens: lines are split off and added
up, and characters are counted off a line.

Both see the same because what a check complains of stays in one line. It is a
single control character that is no blank, or a literal, and neither has a line
feed in it. So the token is an excerpt with its line around it, and all that is
shown of the place can be told from the excerpt (`Excerpt.rendering`).

What has been done to a session before makes no difference, as long as its
source is still the text that it began with (`Session.check_after`).
-/

namespace LosslessScanner

namespace Excerpt

variable (x : Excerpt) (color : Bool)

/-! ## The rows of a snippet -/

/-- A text in a style of its own, as it is written. -/
def painted (style : Style) (t : Text) : Text := Piece.write color (Piece.styled style t)

@[simp] theorem painted_false (style : Style) (t : Text) : painted false style t = t :=
  Piece.write_styled style t

def number : Text := Text.ofNat x.lineNumber

/-- What stands in front of a row that has no number. -/
def blanks : Text := List.replicate x.number.length ' '

/-- A row beside the source: what stands in front of the border, and what stands behind it. -/
def row (front t : Text) : Text := front ++ [' '] ++ painted color .margin ['│'] ++ [' '] ++ t

/-- The row that names the place. -/
def placeRow (name : Text) : Text :=
  x.blanks ++ [' '] ++ painted color .margin ['┌', '─'] ++ [' '] ++ name ++ [':'] ++ x.number
    ++ [':'] ++ Text.ofNat x.column

def borderRow : Text := x.blanks ++ [' '] ++ painted color .margin ['│']

def sourceRow (shown : Text) : Text := row color (painted color .margin x.number) shown

def caretRow (severity : Severity) (carets remark : Text) : Text :=
  row color x.blanks (carets ++ [' '] ++ painted color (.label severity) remark)

/-- A diagnostic whose label is on the excerpt, as it is written, given what is shown of the line
and what is put under it. -/
def rendering (name : Text) (d : Diagnostic) (remark shown carets : Text) : Text :=
  Piece.write color (Listing.headline d) ++
    [x.placeRow color name, x.borderRow color, x.sourceRow color shown,
      x.caretRow color d.severity carets remark, []].flatMap (· ++ ['\n'])

/-! ## What is shown of the line -/

/-- The range of the excerpt in its line. -/
def range : Span := ⟨x.left.byteSize, x.left.byteSize + x.contents.byteSize⟩

/-- The characters of the line, with the excerpt set off. -/
def shownPieces (severity : Severity) : List Piece :=
  Piece.highlight (.label severity) false
    ((Cell.ofText 0 0 x.printed).map fun cell => (cell.within x.range, cell.shown))

/-- What stands under them. -/
def caretPieces (severity : Severity) : List Piece :=
  Piece.highlight (.label severity) false
    ((Cell.ofText 0 0 x.printed ++ [Cell.behind x.printed]).map fun cell =>
      (cell.within x.range, cell.under x.range))

theorem write_shownPieces (severity : Severity) :
    Piece.write false (x.shownPieces severity) = Text.expandTabs 0 x.printed := by
  rw [shownPieces, Piece.write_highlight, List.flatMap_map]
  exact Cell.flatMap_shown 0 0 x.printed

theorem write_caretPieces (severity : Severity) :
    Piece.write false (x.caretPieces severity) =
      (Cell.ofText 0 0 x.printed ++ [Cell.behind x.printed]).flatMap (Cell.under x.range) := by
  rw [caretPieces, Piece.write_highlight, List.flatMap_map]

/-- A snippet has the line of the excerpt, and its label is on the excerpt. -/
structure IsIn (s : Snippet) : Prop where
  number : s.line.number = x.lineNumber
  column : s.line.column s.label.span.start = x.column
  shown : s.line.shown = x.printed
  range : s.range = x.range

/-- A listing finds the line of an excerpt of its text. -/
theorem isIn_containing (severity : Severity) (name remark : Text) (hne : x.contents ≠ [])
    (h : '\n' ∉ x.contents) :
    x.IsIn ⟨severity, name, SourceLine.containing x.source x.span.start,
      ⟨Session.file, x.span, remark⟩⟩ := by
  obtain ⟨l, hline, -, hnumber, hstart, hcolumn, hshown⟩ := x.containing_source h
  rw [hline]
  refine ⟨hnumber, hcolumn, hshown, ?_⟩
  have hsize : 0 < x.contents.byteSize := Nat.pos_of_ne_zero (mt Text.byteSize_eq_zero_iff.1 hne)
  have hstop : x.span.stop = x.span.start + x.contents.byteSize := rfl
  have hfront : x.span.start - l.start = x.left.byteSize := by omega
  have hback : x.span.stop - l.start = x.left.byteSize + x.contents.byteSize := by omega
  simp only [Snippet.range, range, hfront, hback]
  rw [max_eq_left (Nat.add_le_add_left hsize _)]

variable {x} in
theorem IsIn.write_rows {s : Snippet} (h : x.IsIn s) :
    Piece.write color s.rows =
      [x.placeRow color s.name, x.borderRow color,
        x.sourceRow color (Piece.write color (x.shownPieces s.severity)),
        x.caretRow color s.severity (Piece.write color (x.caretPieces s.severity))
          s.label.remark].flatMap (· ++ ['\n']) := by
  have hnumber : Text.ofNat s.line.number = x.number := congrArg Text.ofNat h.number
  have hcells : s.line.cells = Cell.ofText 0 0 x.printed := congrArg (Cell.ofText 0 0) h.shown
  simp only [Snippet.rows, Margin.placeRow, Margin.place, Snippet.borderRow, Snippet.sourceRow,
    Snippet.caretRow, Margin.blank, Margin.numbered, Snippet.width, hnumber, h.column, hcells,
    h.range, h.shown, Text.padLeft_length, placeRow, borderRow, sourceRow, caretRow, row, painted,
    blanks, shownPieces, caretPieces, Piece.write_append, Piece.write_text_cons, Piece.write_nil,
    List.flatMap_cons, List.flatMap_nil, List.append_assoc, List.append_nil]

/-- A listing shows a diagnostic that is about an excerpt of its text with the line of the
excerpt. -/
theorem write_alone {name : Text} (severity : Severity) (message remark : Text)
    (hne : x.contents ≠ []) (h : '\n' ∉ x.contents) :
    let d : Diagnostic := ⟨severity, message, some ⟨Session.file, x.span, remark⟩⟩
    Piece.write color ((Listing.mk name x.source).alone d) =
      x.rendering color name d remark (Piece.write color (x.shownPieces severity))
        (Piece.write color (x.caretPieces severity)) := by
  intro d
  have hin := x.isIn_containing severity name remark hne h
  have hone : (SourceLine.containing x.source x.span.start).number =
      (SourceLine.containing x.source x.span.stop).number := by
    obtain ⟨l, hstart, hstop, -⟩ := x.containing_source h
    rw [hstart, hstop]
  have hrows : (Listing.mk name x.source).rows severity ⟨Session.file, x.span, remark⟩ =
      Snippet.rows ⟨severity, name, SourceLine.containing x.source x.span.start,
        ⟨Session.file, x.span, remark⟩⟩ := if_pos hone
  have hrender : (Listing.mk name x.source).render? d = some (Listing.headline d ++
      Snippet.rows ⟨severity, name, SourceLine.containing x.source x.span.start,
        ⟨Session.file, x.span, remark⟩⟩ ++ [.text ['\n']]) := by
    rw [← hrows]
    rfl
  rw [Listing.alone_of_render? hrender, Piece.write_append, Piece.write_append,
    hin.write_rows color, List.append_assoc]
  simp only [rendering, List.flatMap_cons, List.flatMap_nil, List.append_assoc,
    List.append_nil, List.nil_append, Piece.write_text_cons, Piece.write_nil]
  rfl

/-! ## Excerpts of a scan -/

/-- The excerpt as a token of its source. -/
def token (kind : Kind) : LocatedToken := ⟨⟨kind, x.contents⟩, x.span⟩

/-- A token of a scan is an excerpt of what was scanned. -/
theorem exists_of_mem_locate {source : Text} {t : LocatedToken}
    (h : t ∈ Token.locate 0 (scan source)) :
    ∃ (x : Excerpt) (kind : Kind), t = x.token kind ∧ x.source = source ∧
      x.token kind ∈ scanFile source ∧ (Token.mk kind x.contents).WellFormed := by
  have hmem : t ∈ scanFile source := by
    rw [scanFile_eq_append]
    exact List.mem_append_left _ h
  have hwf := wellFormed_of_mem_scan (Token.token_mem_of_mem_locate h)
  obtain ⟨before, behind, hsource, hstart, hstop⟩ := exists_of_mem_scanFile hmem
  obtain ⟨⟨kind, contents⟩, ⟨start, stop⟩⟩ := t
  obtain rfl : start = before.byteSize := hstart
  obtain rfl : stop = before.byteSize + contents.byteSize := hstop
  exact ⟨⟨before, contents, behind⟩, kind, rfl, hsource.symm, hmem, hwf⟩

/-- A stray character does not end its line. -/
theorem in_line_of_stray {x : Excerpt} {c : Char} (hc : x.contents = [c]) (h : isStray c = true) :
    x.contents ≠ [] ∧ '\n' ∉ x.contents := by
  rw [hc, List.mem_singleton]
  refine ⟨List.cons_ne_nil _ _, ?_⟩
  rintro rfl
  exact absurd h (by decide)

end Excerpt

theorem Token.WellFormed.digit_or_point {t : Token} (h : t.WellFormed)
    (hk : t.kind = .integer ∨ t.kind = .float64) :
    ∀ c ∈ t.contents, isDigit c = true ∨ c = '.' := by
  intro c hc
  rcases hk with hinteger | hfloat
  · exact Or.inl ((h.digits hinteger).2 c hc)
  · obtain ⟨w, f, hcontents, whole, -, fraction⟩ := h.decimal hfloat
    rw [hcontents, List.mem_append, List.mem_cons] at hc
    rcases hc with hw | hpoint | hf
    · exact Or.inl (whole c hw)
    · exact Or.inr hpoint
    · exact Or.inl (fraction c hf)

theorem Token.WellFormed.lineFeed_not_mem {t : Token} (h : t.WellFormed)
    (hk : t.kind = .integer ∨ t.kind = .float64) : '\n' ∉ t.contents := by
  intro hfeed
  rcases h.digit_or_point hk _ hfeed with hdigit | hpoint
  · exact absurd hdigit (by decide)
  · exact absurd hpoint (by decide)

namespace Session

/-! ## What a check finds is in one line -/

/-- An error is about a character that is a token of its own. -/
theorem exists_of_mem_errors {source : Text} {f : Finding} (h : f ∈ (inspect source).errors) :
    ∃ (x : Excerpt) (c : Char), x.source = source ∧ x.token .undefined ∈ scanFile source ∧
      x.contents = [c] ∧ isStray c = true ∧ f = finding ⟨.undefinedToken [c], x.span⟩ := by
  obtain ⟨e, he, rfl⟩ := List.mem_map.1 h
  obtain ⟨t, ht, hfound⟩ := List.mem_filterMap.1 he
  obtain ⟨x, kind, rfl, hsource, hmem, hwf⟩ := Excerpt.exists_of_mem_locate ht
  unfold errorOf? at hfound
  split at hfound
  · next hk =>
      obtain rfl : kind = .undefined := hk
      obtain rfl := Option.some.inj hfound
      obtain ⟨c, hc, hstray⟩ := hwf.stray rfl
      exact ⟨x, c, hsource, hmem, hc, hstray, by rw [← hc]; rfl⟩
  · exact absurd hfound (by simp)

/-- A warning is about a literal. -/
theorem exists_of_mem_warnings {source : Text} {f : Finding}
    (h : f ∈ (inspect source).warnings) :
    ∃ (x : Excerpt) (kind : Kind) (fault : Fault), x.source = source ∧
      x.token kind ∈ scanFile source ∧ (Token.mk kind x.contents).WellFormed ∧
      (kind = .integer ∧ fault = .invalidInteger x.contents ∨
        kind = .float64 ∧ fault = .invalidFloat x.contents) ∧
      f = finding ⟨fault, x.span⟩ := by
  obtain ⟨⟨fault, span⟩, he, rfl⟩ := List.mem_map.1 h
  obtain ⟨t, ht, hfound⟩ := List.mem_filterMap.1 he
  obtain ⟨x, kind, rfl, hsource, hmem, hwf⟩ := Excerpt.exists_of_mem_locate ht
  rw [warningOf?_eq hwf] at hfound
  obtain ⟨hspan, hfault⟩ := LocatedToken.of_excess? hfound
  obtain rfl : span = x.span := hspan
  exact ⟨x, kind, fault, hsource, hmem, hwf, hfault, rfl⟩

/-- Whatever a check finds is an excerpt of one line. -/
theorem exists_of_mem_diagnostics {source : Text} {d : Diagnostic}
    (h : d ∈ (inspect source).diagnostics) :
    ∃ (x : Excerpt) (kind : Kind) (severity : Severity) (fault : Fault), x.source = source ∧
      x.token kind ∈ scanFile source ∧ x.contents ≠ [] ∧ '\n' ∉ x.contents ∧
      d = (finding ⟨fault, x.span⟩).diagnose severity := by
  rcases List.mem_append.1 h with hd | hd
  · obtain ⟨f, hf, rfl⟩ := List.mem_map.1 hd
    obtain ⟨x, c, hsource, hmem, hc, hstray, rfl⟩ := exists_of_mem_errors hf
    obtain ⟨hne, hfeed⟩ := Excerpt.in_line_of_stray hc hstray
    exact ⟨x, .undefined, .error, _, hsource, hmem, hne, hfeed, rfl⟩
  · obtain ⟨f, hf, rfl⟩ := List.mem_map.1 hd
    obtain ⟨x, kind, fault, hsource, hmem, hwf, hfault, rfl⟩ := exists_of_mem_warnings hf
    have hfeed := hwf.lineFeed_not_mem (hfault.imp And.left And.left)
    exact ⟨x, kind, .warning, fault, hsource, hmem, hwf.ne_nil, hfeed, rfl⟩

/-- A check shows what it has found with the line that it is in. -/
theorem shown_finding (name : Text) {x : Excerpt} (hne : x.contents ≠ []) (h : '\n' ∉ x.contents)
    (color : Bool) (severity : Severity) (fault : Fault) :
    let d := (finding ⟨fault, x.span⟩).diagnose severity
    (ofText name x.source).check.shown color d =
      x.rendering color name d fault.remark (Piece.write color (x.shownPieces severity))
        (Piece.write color (x.caretPieces severity)) :=
  x.write_alone color severity _ fault.remark hne h

/-! ## Sessions that keep their source -/

theorem check_step {s : Session} {step : Step} (h : step.source? = none) :
    (s.step step).2.check = s.check := by
  cases step with
  | setSource source => exact absurd h (Option.some_ne_none source)
  | check | clear | addError _ | addWarning _ | report | diagnostics | emit _ | tokens
  | dump _ => rfl

/-- As long as the source stays as it is, a check makes the session that it made at first. -/
theorem check_after {s : Session} {steps : List Step}
    (h : ∀ step ∈ steps, step.source? = none) : (s.after steps).check = s.check := by
  induction steps generalizing s with
  | nil => rfl
  | cons step steps ih =>
      obtain ⟨hstep, hrest⟩ := List.forall_mem_cons.1 h
      rw [after_cons, ih hrest, check_step hstep]

/-- What a check finds in a source is shown where it is. Each diagnostic is about a token that
stays in one line. It names the line, counted in line feeds, and the column, counted in characters
from the last of these, so that the two give back the byte offset of the token; and the line that
it shows is that line, without what is cut off its end and with tabs as blanks. -/
theorem locations_check (name source : Text) {steps : List Step}
    (h : ∀ step ∈ steps, step.source? = none) :
    let s := ((ofText name source).after steps).check
    (∀ color, s.emit color = (s.report.diagnostics.flatMap (s.shown color), none)) ∧
      ∀ d ∈ s.report.diagnostics, ∃ (x : Excerpt) (kind : Kind) (remark : Text),
        x.source = source ∧ x.token kind ∈ s.tokens ∧ d.label = some ⟨file, x.span, remark⟩ ∧
        x.contents ≠ [] ∧ '\n' ∉ x.contents ∧
        (source.splitOn '\n')[x.lineNumber - 1]? = some x.line ∧
        offsetAt source x.lineNumber x.column = x.span.start ∧
        ∃ shown carets : List Piece, Piece.write false shown = Text.expandTabs 0 x.printed ∧
          ∀ color, s.shown color d =
            x.rendering color name d remark (Piece.write color shown)
              (Piece.write color carets) := by
  intro s
  have hs : s = (ofText name source).check := check_after h
  rw [hs]
  refine ⟨fun color => emit_check _ color, fun d hd => ?_⟩
  obtain ⟨x, kind, severity, fault, rfl, hmem, hne, hfeed, rfl⟩ := exists_of_mem_diagnostics hd
  exact ⟨x, kind, fault.remark, rfl, hmem, rfl, hne, hfeed, x.getElem?_lines hfeed,
    x.offsetAt_source hfeed, x.shownPieces severity, x.caretPieces severity,
    x.write_shownPieces severity,
    fun color => shown_finding name hne hfeed color severity fault⟩

/-- A stray character behind others of two bytes, in the second line. -/
theorem locations_check_twoBytes :
    let steps : List Step := [.check, .tokens]
    let source : Text := ['é', '\n', '\t', 'ü', '\x01']
    let s := ((ofText ['f'] source).after steps).check
    let d := (finding ⟨.undefinedToken ['\x01'], ⟨6, 7⟩⟩).diagnose .error
    (∀ step ∈ steps, step.source? = none) ∧ d ∈ s.report.diagnostics ∧
      ∃ x : Excerpt, x.source = source ∧ x.span = ⟨6, 7⟩ ∧
        offsetAt source x.lineNumber x.column = 6 := by
  intro steps source s d
  have h : ∀ step ∈ steps, step.source? = none :=
    List.forall_mem_cons.2 ⟨rfl, List.forall_mem_singleton.2 rfl⟩
  have hd : d ∈ s.report.diagnostics := by decide +kernel
  obtain ⟨x, -, remark, hx, -, hlabel, -, -, -, hoffset, -⟩ :=
    (locations_check ['f'] source h).2 d hd
  have hspan : x.span = ⟨6, 7⟩ := (Label.mk.inj (Option.some.inj hlabel)).2.1.symm
  rw [hspan] at hoffset
  exact ⟨h, hd, x, hx, hspan, hoffset⟩

end Session

end LosslessScanner
