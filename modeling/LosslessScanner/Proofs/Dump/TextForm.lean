import LosslessScanner.Dump
import LosslessScanner.Proofs.Escapes
import LosslessScanner.Proofs.Spans

/-!
# The text dump read back

A text dump has one line for each token, and a line has everything there is to
know of the token. Neither is plain to see, because the contents of a token may
be any text: line feeds, quotes, and what looks like the end of the line it is
shown in.

The quotes settle both. What is between them has no line feed, so the lines can
be told apart by splitting; and it ends at the first quote that no backslash
stands before, so that a reader that goes through a line from the left knows at
each place what comes next. The reader below does that, and it never looks at
the number in front, which is there for people.
-/

namespace LosslessScanner

namespace Text

/-- Reads a number in decimal digits, and what stands behind it. -/
def readNat? (t : Text) : Option (Nat × Text) :=
  let digits := t.takeWhile isDigit
  if digits = [] then none else some (ofDigits digits, t.dropWhile isDigit)

theorem readNat?_ofNat_append (n : Nat) {r : Text} (h : r.begins isDigit = false) :
    readNat? (ofNat n ++ r) = some (n, r) := by
  simp only [readNat?, takeWhile_ofNat_append h, dropWhile_ofNat_append h, ofNat_ne_nil,
    if_false, ofDigits_ofNat]

theorem dropWhile_padLeft_ofNat (width n : Nat) (r : Text) :
    (padLeft width (ofNat n) ++ r).dropWhile (· = ' ') = ofNat n ++ r := by
  obtain ⟨c, w, hc⟩ := List.exists_cons_of_ne_nil (ofNat_ne_nil n)
  have hdigit : isDigit c := isDigit_of_mem_ofNat c (by rw [hc]; simp)
  have hblank : ¬ decide (c = ' ') = true := by
    intro h
    rw [of_decide_eq_true h] at hdigit
    exact absurd hdigit (by decide)
  rw [padLeft, List.append_assoc, List.dropWhile_append_of_pos (by simp), hc]
  exact List.dropWhile_cons_of_neg hblank

end Text

/-! ## Tokens -/

namespace Token

/-- Reads a token as it is displayed, and what stands behind it. -/
def readDisplay? (t : Text) : Option (Token × Text) :=
  match t.dropWhile (· ≠ '(') with
  | '(' :: '"' :: rest =>
    match Kind.ofName? (t.takeWhile (· ≠ '(')), Text.quoteEscapes.read rest with
    | some kind, some (contents, ')' :: behind) => some (⟨kind, contents⟩, behind)
    | _, _ => none
  | _ => none

theorem readDisplay?_display_append (t : Token) (r : Text) :
    readDisplay? (t.display ++ r) = some (t, r) := by
  have hdisplay : t.display ++ r =
      t.kind.name ++ '(' :: '"' :: (t.contents.flatMap Text.quoteChar ++ '"' :: ')' :: r) := by
    simp [display, Text.quoted]
  have hname : ∀ c ∈ t.kind.name, decide (c ≠ '(') = true := by
    intro c hc
    rw [decide_eq_true_eq]
    rintro rfl
    exact t.kind.not_mem_name rfl hc
  rw [hdisplay, readDisplay?, List.takeWhile_append_of_pos hname,
    List.dropWhile_append_of_pos hname, List.takeWhile_cons_of_neg (by decide),
    List.dropWhile_cons_of_neg (by decide), List.append_nil]
  simp only [Kind.ofName?_name, Text.quoteEscapes.read_flatMap Text.reads_quoteChar]

theorem not_mem_display (t : Token) : '\n' ∉ t.display := by
  have hname : '\n' ∉ t.kind.name := t.kind.not_mem_name rfl
  have hcontents : '\n' ∉ Text.quoted t.contents := Text.not_mem_quoted (by decide) _
  simp [display, hname, hcontents]

end Token

namespace Dump

/-! ## Lines -/

def readLine? (line : Text) : Option LocatedToken := do
  let (_, t) ← Text.readNat? (line.dropWhile (· = ' '))
  let (token, t) ← Token.readDisplay? (← [':', ' '].isPrefixOf? t)
  let (start, t) ← Text.readNat? (← [' ', '@', ' '].isPrefixOf? t)
  let (stop, t) ← Text.readNat? (← ['.', '.'].isPrefixOf? t)
  if t = [] then some ⟨token, ⟨start, stop⟩⟩ else none

theorem textLine_eq (n : Nat) (t : LocatedToken) :
    textLine n t = Text.padLeft 4 (Text.ofNat n) ++ (':' :: ' ' :: (t.token.display ++
      (' ' :: '@' :: ' ' :: (Text.ofNat t.span.start ++
        ('.' :: '.' :: (Text.ofNat t.span.stop ++ [])))))) := by
  simp [textLine]

theorem readLine?_textLine (n : Nat) (t : LocatedToken) : readLine? (textLine n t) = some t := by
  have hcolon (r : Text) : [':', ' '].isPrefixOf? (':' :: ' ' :: r) = some r := rfl
  have hat (r : Text) : [' ', '@', ' '].isPrefixOf? (' ' :: '@' :: ' ' :: r) = some r := rfl
  have hpoints (r : Text) : ['.', '.'].isPrefixOf? ('.' :: '.' :: r) = some r := rfl
  -- a number is read to its end, because what stands behind it does not begin with a digit
  have hstart (r : Text) := Text.readNat?_ofNat_append t.span.start (r := '.' :: r) rfl
  have hstop := Text.readNat?_ofNat_append t.span.stop (r := []) rfl
  rw [textLine_eq, readLine?, Text.dropWhile_padLeft_ofNat, Text.readNat?_ofNat_append n rfl]
  simp only [Option.bind_eq_bind, Option.bind_some, hcolon, Token.readDisplay?_display_append, hat,
    hstart, hpoints, hstop, if_true]

theorem not_mem_textLine (n : Nat) (t : LocatedToken) : '\n' ∉ textLine n t := by
  have hnumber (n : Nat) : '\n' ∉ Text.ofNat n := Text.not_mem_ofNat rfl n
  simp [textLine_eq, Text.padLeft, hnumber, Token.not_mem_display]

/-! ## Dumps -/

/-- What a dump is about: all tokens, or all but blanks and comments. -/
def kept (trivia : Bool) (ts : List LocatedToken) : List LocatedToken :=
  if trivia then ts
  else ts.filter fun t => t.token.kind ≠ .whitespace ∧ t.token.kind ≠ .comment

theorem select_eq_kept (d : Dump) (ts : List LocatedToken) : d.select ts = kept d.trivia ts := by
  rw [select, kept]
  cases d.trivia with
  | true => simp
  | false =>
      refine List.filter_congr fun t _ => ?_
      cases t.token.kind
      all_goals rfl

theorem splitOn_textForm {ts : List LocatedToken} (h : ts ≠ []) :
    (textForm ts).splitOn '\n' = ts.mapIdx textLine := by
  refine List.splitOn_intercalate '\n' ?_ (by simpa using h)
  intro line hline
  obtain ⟨i, hi, rfl⟩ := List.mem_mapIdx.1 hline
  exact not_mem_textLine i ts[i]

theorem textForm_ne_nil {ts : List LocatedToken} (h : ts ≠ []) : textForm ts ≠ [] := by
  intro hempty
  have hsplit := splitOn_textForm h
  have hmem : [] ∈ ts.mapIdx textLine := by
    rw [← hsplit, hempty]
    simp
  obtain ⟨i, hi, hline⟩ := List.mem_mapIdx.1 hmem
  simp [textLine_eq] at hline

/-- Reads a dump. A text without a line is the dump of no tokens. -/
def ofText? (t : Text) : Option (List LocatedToken) :=
  if t = [] then some [] else (t.splitOn '\n').mapM readLine?

theorem mapM_readLine? (ts : List LocatedToken) (number : Nat → Nat) :
    (ts.mapIdx fun i t => textLine (number i) t).mapM readLine? = some ts := by
  induction ts generalizing number with
  | nil => rfl
  | cons t ts ih =>
      rw [List.mapIdx_cons, List.mapM_cons, readLine?_textLine, ih fun i => number (i + 1)]
      rfl

theorem ofText?_render (trivia : Bool) (ts : List LocatedToken) :
    ofText? (render ⟨.text, trivia⟩ ts) = some (kept trivia ts) := by
  rw [render, select_eq_kept]
  show ofText? (textForm (kept trivia ts)) = _
  by_cases h : kept trivia ts = []
  · rw [h]
    rfl
  · rw [ofText?, if_neg (textForm_ne_nil h), splitOn_textForm h]
    exact mapM_readLine? _ id

/-- A line with a number in front, which blanks bring to a width of four. -/
def NumberedBy (n : Nat) (line : Text) : Prop :=
  ∃ blanks rest, line = List.replicate blanks ' ' ++ (Text.ofNat n ++ ':' :: rest) ∧
    blanks + (Text.ofNat n).length = max 4 (Text.ofNat n).length

theorem numberedBy_textLine (n : Nat) (t : LocatedToken) : NumberedBy n (textLine n t) := by
  rw [textLine_eq, Text.padLeft, List.append_assoc]
  exact ⟨4 - (Text.ofNat n).length, _, rfl, by omega⟩

/-- A text dump shows the tokens that are kept, a numbered line for each, and they can be read
off it; so the dump of a source with its trivia has the source in it. -/
theorem render_text_readable (trivia : Bool) (ts : List LocatedToken) :
    (∀ trivia' us, render ⟨.text, trivia'⟩ us = render ⟨.text, trivia⟩ ts ↔
      kept trivia' us = kept trivia ts) ∧
    (kept trivia ts ≠ [] →
      let lines := (render ⟨.text, trivia⟩ ts).splitOn '\n'
      lines.length = (kept trivia ts).length ∧
        ∀ i line, lines[i]? = some line → NumberedBy i line) ∧
    ofText? (render ⟨.text, trivia⟩ ts) = some (kept trivia ts) ∧
    ∀ s : Text, (ofText? (render ⟨.text, true⟩ (scanFile s))).map
      (fun us => Token.text (us.map LocatedToken.token)) = some s := by
  refine ⟨fun trivia' us => ⟨fun h => ?_, fun h => ?_⟩, fun hne => ?_, ofText?_render trivia ts,
    fun s => ?_⟩
  · have hread := ofText?_render trivia' us
    rw [h, ofText?_render] at hread
    exact (Option.some.inj hread).symm
  · rw [render, render, select_eq_kept, select_eq_kept, h]
  · have hlines : (render ⟨.text, trivia⟩ ts).splitOn '\n' =
        (kept trivia ts).mapIdx textLine := by
      rw [← splitOn_textForm hne, render, select_eq_kept]
    rw [hlines]
    refine ⟨List.length_mapIdx, fun i line hline => ?_⟩
    rw [List.getElem?_mapIdx] at hline
    obtain ⟨t, -, rfl⟩ := Option.map_eq_some_iff.1 hline
    exact numberedBy_textLine i t
  · rw [ofText?_render, Option.map_some, kept, if_pos rfl, scanFile, scanAt,
      Token.map_token_locate, text_scan_append_mark]

end Dump

end LosslessScanner
