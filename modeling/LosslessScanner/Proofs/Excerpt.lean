import Mathlib.Algebra.Ring.Nat
import Mathlib.Data.List.DropRight
import LosslessScanner.Diagnostic.SourceLine
import LosslessScanner.Proofs.Lines

/-!
# A piece of a source in its line

A place in a source can be told by a byte offset, which is what the scanner
counts, or by a line and a column, which is what is shown to people. Here a
piece of a source is given with all that is in front of it and behind it
(`Excerpt`), and line and column are counted in that: the line is one more than
the line feeds in front of the piece, and the column one more than the
characters that stand between the last of these and the piece.

The source lines of a listing are found in another way, by going through the
lines and adding up their sizes. It comes to the same as long as the piece stays
in one line, and at both ends of it (`SourceLine.find_eq`). Nor is anything lost:
line and column give the offset back (`offsetAt_source`).

Both arguments take the lines in front of the piece off one by one, so both are
by `Line.split_induction`.
-/

namespace LosslessScanner

namespace Text

/-- What is behind the last line feed. -/
def lastLine (t : Text) : Text := t.rtakeWhile (· ≠ '\n')

/-- What is in front of the first line feed. -/
def firstLine (t : Text) : Text := t.takeWhile (· ≠ '\n')

theorem ne_lineFeed_of_mem {t : Text} (h : '\n' ∉ t) : ∀ c ∈ t, decide (c ≠ '\n') = true := by
  intro c hc
  rw [decide_eq_true_eq]
  rintro rfl
  exact h hc

theorem lastLine_of_not_mem {t : Text} (h : '\n' ∉ t) : t.lastLine = t :=
  List.rtakeWhile_eq_self_iff.2 (ne_lineFeed_of_mem h)

theorem lastLine_append_lineFeed (p r : Text) : lastLine (p ++ '\n' :: r) = r.lastLine := by
  rw [lastLine, List.rtakeWhile, List.reverse_append, List.reverse_cons, List.append_assoc,
    List.takeWhile_append]
  split
  · next hall =>
      have hself : r.reverse.takeWhile (· ≠ '\n') = r.reverse :=
        (List.takeWhile_prefix _).eq_of_length hall
      rw [lastLine, List.rtakeWhile, hself]
      simp
  · rfl

theorem firstLine_append {p : Text} (h : '\n' ∉ p) (r : Text) :
    firstLine (p ++ r) = p ++ r.firstLine :=
  List.takeWhile_append_of_pos (ne_lineFeed_of_mem h)

theorem firstLine_of_not_mem {t : Text} (h : '\n' ∉ t) : t.firstLine = t := by
  have happend := firstLine_append h []
  rwa [List.append_nil, firstLine, firstLine, List.takeWhile_nil, List.append_nil] at happend

theorem firstLine_lineFeed (r : Text) : firstLine ('\n' :: r) = [] := rfl

end Text

/-- A piece of a source, what is in front of it, and what is behind it. -/
structure Excerpt where
  before : Text
  contents : Text
  behind : Text

namespace Excerpt

variable (x : Excerpt)

def source : Text := x.before ++ x.contents ++ x.behind

def span : Span := ⟨x.before.byteSize, x.before.byteSize + x.contents.byteSize⟩

/-- What is in front of the piece in its line. -/
def left : Text := x.before.lastLine

/-- What is behind it in its line. -/
def right : Text := x.behind.firstLine

/-- The line without the line feed at its end. -/
def line : Text := x.left ++ x.contents ++ x.right

/-- The number of the line, from one. -/
def lineNumber : Nat := x.before.count '\n' + 1

/-- The column that the piece begins in, from one. -/
def column : Nat := x.left.length + 1

end Excerpt

/-- The byte offset of a line and a column. -/
def offsetAt (source : Text) (line column : Nat) : Nat :=
  let lines := source.splitOn '\n'
  ((lines.take (line - 1)).map fun l => Text.byteSize l + '\n'.utf8Size).sum
    + Text.byteSize ((lines.getD (line - 1) []).take (column - 1))

/-- The lines that a text ends, and what it has of the next one, are all of it. -/
theorem sum_byteSize_lines (before behind : Text) :
    ((((before ++ behind).splitOn '\n').take (before.count '\n')).map
        fun l => Text.byteSize l + '\n'.utf8Size).sum + before.lastLine.byteSize =
      before.byteSize := by
  induction before using Line.split_induction with
  | last before hlast =>
      rw [List.count_eq_zero.2 hlast, Text.lastLine_of_not_mem hlast, List.take_zero, List.map_nil,
        List.sum_nil, Nat.zero_add]
  | more p r hp ih =>
      rw [List.append_assoc, List.cons_append, List.splitOn_append_cons_self_of_not_mem hp,
        List.count_append, List.count_eq_zero.2 hp, List.count_cons_self, Nat.zero_add,
        List.take_succ_cons, List.map_cons, List.sum_cons, Text.lastLine_append_lineFeed,
        Nat.add_assoc, ih, Text.byteSize_append, Text.byteSize_cons, Nat.add_assoc]

section Lines

variable {contents : Text} (h : '\n' ∉ contents)

include h

/-- The line of a piece is the one that its number tells. -/
theorem getElem?_splitOn (before behind : Text) :
    ((before ++ contents ++ behind).splitOn '\n')[before.count '\n']? =
      some (before.lastLine ++ contents ++ behind.firstLine) := by
  induction before using Line.split_induction with
  | last before hlast =>
      have hfront : '\n' ∉ before ++ contents := by simp [hlast, h]
      rw [List.count_eq_zero.2 hlast, Text.lastLine_of_not_mem hlast]
      by_cases hbehind : '\n' ∈ behind
      · obtain ⟨p, r, rfl, hp⟩ := List.eq_append_cons_of_mem hbehind
        have hline : '\n' ∉ before ++ contents ++ p := by simp [hlast, h, hp]
        rw [← List.append_assoc, List.splitOn_append_cons_self_of_not_mem hline,
          Text.firstLine_append hp, Text.firstLine_lineFeed, List.append_nil]
        rfl
      · have hline : '\n' ∉ before ++ contents ++ behind := by simp [hlast, h, hbehind]
        rw [List.splitOn_eq_singleton hline, Text.firstLine_of_not_mem hbehind]
        rfl
  | more p r hp ih =>
      rw [List.append_assoc, List.append_assoc, List.cons_append,
        List.splitOn_append_cons_self_of_not_mem hp, List.count_append, List.count_eq_zero.2 hp,
        List.count_cons_self, Nat.zero_add, List.getElem?_cons_succ, Text.lastLine_append_lineFeed,
        ← List.append_assoc]
      exact ih

theorem offsetAt_append (before behind : Text) :
    offsetAt (before ++ contents ++ behind) (before.count '\n' + 1) (before.lastLine.length + 1) =
      before.byteSize := by
  simp only [offsetAt, Nat.add_sub_cancel]
  rw [List.getD_eq_getElem?_getD, getElem?_splitOn h, Option.getD_some,
    List.append_assoc before.lastLine, List.take_left, List.append_assoc before]
  exact sum_byteSize_lines before (contents ++ behind)

end Lines

/-! ## The lines of a listing -/

theorem splitLines_ne_nil (t : Text) : splitLines t ≠ [] := by
  cases t with
  | nil => exact List.cons_ne_nil _ _
  | cons c t =>
      rw [splitLines]
      split
      · exact List.cons_ne_nil _ _
      · split
        · exact List.cons_ne_nil _ _
        · exact List.cons_ne_nil _ _

theorem splitLines_of_not_mem {t : Text} (h : '\n' ∉ t) : splitLines t = [t] := by
  induction t with
  | nil => rfl
  | cons c t ih =>
      simp only [List.mem_cons, not_or] at h
      rw [splitLines, if_neg (Ne.symm h.1), ih h.2]

theorem splitLines_append {p : Text} (h : '\n' ∉ p) (r : Text) :
    splitLines (p ++ '\n' :: r) = (p ++ ['\n']) :: splitLines r := by
  induction p with
  | nil => rw [List.nil_append, splitLines, if_pos rfl, List.nil_append]
  | cons c p ih =>
      simp only [List.mem_cons, not_or] at h
      rw [List.cons_append, splitLines, if_neg (Ne.symm h.1), ih h.2, List.cons_append]

theorem flatten_splitLines (t : Text) : (splitLines t).flatten = t := by
  induction t with
  | nil => rfl
  | cons c t ih =>
      rw [splitLines]
      split
      · rw [List.flatten_cons, ih, List.singleton_append]
      · split
        · next hnil => exact absurd hnil (splitLines_ne_nil t)
        · next line lines hlines =>
            rw [hlines] at ih
            rw [List.flatten_cons, List.cons_append, ← List.flatten_cons, ih]

namespace SourceLine

theorem find_of_lt {offset number start : Nat} {line : Text} (lines : List Text)
    (h : offset < start + line.byteSize) :
    find offset number start (line :: lines) = ⟨number, start, line⟩ := by
  cases lines with
  | nil => rfl
  | cons l ls => rw [find, if_pos h]; exact nofun

theorem find_of_le {offset number start : Nat} {line : Text} {lines : List Text}
    (hne : lines ≠ []) (h : start + line.byteSize ≤ offset) :
    find offset number start (line :: lines) =
      find offset (number + 1) (start + line.byteSize) lines := by
  cases lines with
  | nil => exact absurd rfl hne
  | cons l ls => rw [find, if_neg (by omega)]; exact nofun

theorem find_mem_enumerate {offset number start : Nat} {lines : List Text} (h : lines ≠ []) :
    find offset number start lines ∈ enumerate number start lines := by
  induction lines generalizing number start with
  | nil => exact absurd rfl h
  | cons line lines ih =>
      rw [enumerate, List.mem_cons]
      by_cases hlines : lines = []
      · subst hlines
        exact Or.inl rfl
      · rcases Nat.lt_or_ge offset (start + line.byteSize) with hlt | hle
        · exact Or.inl (find_of_lt lines hlt)
        · rw [find_of_le hlines hle]
          exact Or.inr (ih hlines)

/-- The line of an offset is one of the lines. -/
theorem containing_mem_all (source : Text) (offset : Nat) :
    containing source offset ∈ all source :=
  find_mem_enumerate (splitLines_ne_nil source)

theorem mem_of_mem_enumerate {number start : Nat} {lines : List Text} {line : SourceLine}
    {c : Char} (hline : line ∈ enumerate number start lines) (h : c ∈ line.text) :
    c ∈ lines.flatten := by
  induction lines generalizing number start with
  | nil => exact absurd hline List.not_mem_nil
  | cons l lines ih =>
      rw [List.flatten_cons, List.mem_append]
      rcases List.mem_cons.1 hline with rfl | hmore
      · exact Or.inl h
      · exact Or.inr (ih hmore)

/-- What is shown of a line stands in the source. -/
theorem mem_of_mem_shown {source : Text} {line : SourceLine} {c : Char}
    (hline : line ∈ all source) (h : c ∈ line.shown) : c ∈ source := by
  have htext : c ∈ line.text := (List.rdropWhile_prefix isTrailing _).subset h
  rw [← flatten_splitLines source]
  exact mem_of_mem_enumerate hline htext

/-- The line that all of a piece is in, from where it begins to where it ends, told by what is in
front of the piece. -/
theorem find_eq {contents : Text} (h : '\n' ∉ contents) (before behind : Text)
    (number start : Nat) :
    ∃ offset feed,
      (∀ n ≤ contents.byteSize, find (start + before.byteSize + n) number start
          (splitLines (before ++ contents ++ behind)) =
        ⟨number + before.count '\n', offset,
          before.lastLine ++ contents ++ behind.firstLine ++ feed⟩) ∧
      offset + before.lastLine.byteSize = start + before.byteSize ∧
      (feed = [] ∨ feed = ['\n']) := by
  -- The search passes the lines in front one by one, with their number and start.
  induction before using Line.split_induction generalizing number start with
  | last before hlast =>
      rw [List.count_eq_zero.2 hlast, Text.lastLine_of_not_mem hlast]
      by_cases hbehind : '\n' ∈ behind
      · obtain ⟨p, r, rfl, hp⟩ := List.eq_append_cons_of_mem hbehind
        have hline : '\n' ∉ before ++ contents ++ p := by simp [hlast, h, hp]
        refine ⟨start, ['\n'], ?_, rfl, Or.inr rfl⟩
        intro n hn
        have hfeed : Text.byteSize ['\n'] = 1 := rfl
        rw [← List.append_assoc, splitLines_append hline, Text.firstLine_append hp,
          Text.firstLine_lineFeed, List.append_nil]
        refine find_of_lt _ ?_
        simp only [Text.byteSize_append]
        omega
      · have hline : '\n' ∉ before ++ contents ++ behind := by simp [hlast, h, hbehind]
        refine ⟨start, [], ?_, rfl, Or.inl rfl⟩
        intro n _
        rw [splitLines_of_not_mem hline, Text.firstLine_of_not_mem hbehind, List.append_nil]
        rfl
  | more p r hp ih =>
      obtain ⟨offset, feed, hfind, hoffset, hfeed⟩ :=
        ih (number + 1) (start + (p ++ ['\n']).byteSize)
      have hbefore : start + (p ++ '\n' :: r).byteSize =
          start + (p ++ ['\n']).byteSize + r.byteSize := by
        simp only [Text.byteSize_append, Text.byteSize_cons, Text.byteSize_nil]
        omega
      have hnumber : number + (p ++ '\n' :: r).count '\n' = number + 1 + r.count '\n' := by
        rw [List.count_append, List.count_eq_zero.2 hp, List.count_cons_self]
        omega
      refine ⟨offset, feed, ?_, ?_, hfeed⟩
      · intro n hn
        have hle : start + (p ++ ['\n']).byteSize ≤
            start + (p ++ ['\n']).byteSize + r.byteSize + n := by omega
        rw [List.append_assoc, List.append_assoc, List.cons_append, splitLines_append hp, hbefore,
          hnumber, Text.lastLine_append_lineFeed, ← hfind n hn,
          find_of_le (splitLines_ne_nil _) hle, List.append_assoc]
      · rw [Text.lastLine_append_lineFeed, hbefore, hoffset]

theorem charsBefore_append (start : Nat) (s t : Text) :
    charsBefore start (start + s.byteSize) (s ++ t) = s.length := by
  induction s generalizing start with
  | nil =>
      cases t with
      | nil => rfl
      | cons c t =>
          have hpos := c.utf8Size_pos
          rw [List.nil_append, charsBefore, if_neg (by simp only [Text.byteSize_nil]; omega)]
          rfl
  | cons c s ih =>
      have hsum : start + Text.byteSize (c :: s) = start + c.utf8Size + Text.byteSize s := by
        rw [Text.byteSize_cons, Nat.add_assoc]
      rw [List.cons_append, charsBefore, hsum, if_pos (Nat.le_add_right _ _), ih, List.length_cons]

end SourceLine

namespace Excerpt

/-- The line as it is printed, but for its tabs. -/
def printed (x : Excerpt) : Text := x.line.rdropWhile (· ∈ ['\n', '\r', '\x00'])

variable (x : Excerpt)

theorem offsetAt_source (h : '\n' ∉ x.contents) :
    offsetAt x.source x.lineNumber x.column = x.span.start :=
  offsetAt_append h x.before x.behind

theorem getElem?_lines (h : '\n' ∉ x.contents) :
    (x.source.splitOn '\n')[x.lineNumber - 1]? = some x.line :=
  getElem?_splitOn h x.before x.behind

theorem trimEnd_line {feed : Text} (h : feed = [] ∨ feed = ['\n']) :
    (x.line ++ feed).trimEnd SourceLine.isTrailing = x.printed := by
  have hclass : SourceLine.isTrailing = fun c => decide (c ∈ ['\n', '\r', '\x00']) := by
    funext c
    rw [SourceLine.isTrailing, Bool.eq_iff_iff]
    simp [or_assoc]
  rcases h with rfl | rfl
  · rw [List.append_nil, hclass]
    rfl
  · rw [hclass]
    exact List.rdropWhile_concat_pos _ _ _ (by decide)

/-- All of a piece is printed, unless it ends in what is cut off the end of its line. -/
theorem printed_cases :
    (∃ rest, x.printed = x.left ++ x.contents ++ rest) ∨
      x.printed <+: x.left ++ x.contents ∧ x.printed ≠ x.left ++ x.contents ∧
        ∀ c ∈ x.contents.getLast?, c ∈ ['\n', '\r', '\x00'] := by
  have hline : x.printed ++ x.line.rtakeWhile (· ∈ ['\n', '\r', '\x00']) =
      x.left ++ x.contents ++ x.right := List.rdropWhile_append_rtakeWhile ..
  -- The line is cut inside the piece or in front of it, or else not before its end.
  rcases List.append_eq_append_iff.1 hline with ⟨cut, hprinted, hcut⟩ | ⟨rest, hprinted, -⟩
  · by_cases hnil : cut = []
    · rw [hnil, List.append_nil] at hprinted
      exact Or.inl ⟨[], by rw [List.append_nil, hprinted]⟩
    · refine Or.inr ⟨⟨cut, hprinted.symm⟩, ?_, ?_⟩
      · intro heq
        rw [heq] at hprinted
        exact hnil (List.append_right_eq_self.1 hprinted.symm)
      · intro c hc
        have hlast : (x.left ++ x.contents).getLast? = some c := by
          rw [List.getLast?_append, Option.mem_def.1 hc]
          rfl
        obtain ⟨front, d, rfl⟩ := List.eq_nil_or_concat' cut |>.resolve_left hnil
        rw [hprinted, ← List.append_assoc, List.getLast?_concat] at hlast
        obtain rfl := Option.some.inj hlast
        have hmem : d ∈ x.line.rtakeWhile (· ∈ ['\n', '\r', '\x00']) := by
          rw [hcut]
          simp
        have htrailing := List.mem_rtakeWhile_imp hmem
        exact of_decide_eq_true htrailing
  · exact Or.inl ⟨rest, hprinted⟩

/-- The line of a piece as a listing finds it, where the piece begins and where it ends: what it
shows, and where the piece is in it. -/
theorem containing_source (h : '\n' ∉ x.contents) :
    ∃ l : SourceLine, SourceLine.containing x.source x.span.start = l ∧
      SourceLine.containing x.source x.span.stop = l ∧
      l.number = x.lineNumber ∧ l.start + x.left.byteSize = x.span.start ∧
      l.column x.span.start = x.column ∧ l.shown = x.printed := by
  obtain ⟨offset, feed, hfind, hoffset, hfeed⟩ := SourceLine.find_eq h x.before x.behind 1 0
  rw [Nat.zero_add] at hfind hoffset
  refine ⟨_, hfind 0 (Nat.zero_le _), hfind _ (Nat.le_refl _), Nat.add_comm _ _, hoffset, ?_,
    x.trimEnd_line hfeed⟩
  have hstart : x.span.start = offset + x.left.byteSize := hoffset.symm
  rw [SourceLine.column, hstart, List.append_assoc, List.append_assoc]
  exact congrArg (· + 1) (SourceLine.charsBefore_append offset x.left _)

end Excerpt

end LosslessScanner
