import Mathlib.Algebra.Ring.Nat
import Mathlib.Data.List.Infix
import LosslessScanner.Proofs.Dump.TextForm
import LosslessScanner.Proofs.Punctuation

/-!
# The echo of a line read back

An echo is the shortest way to show tokens: one behind the other, with a comma
and a blank after each. It can be read back for the same reason as a dump. What
is between the quotes ends where the reader of quotes says, and there the
closing parenthesis and the separator have to follow, whatever else in the
contents may look like them.

So the separators tell the tokens apart, but they do not count them, because a
comment may have commas of its own. No other token has a comma next to a blank:
a comma is in no token but its own and in comments. And quoting makes no new
ones, since an escape has neither commas nor blanks in it.
-/

namespace LosslessScanner

namespace Text

/-- How often a pattern occurs in a text. -/
def occurrences (pattern t : Text) : Nat := t.tails.countP pattern.isPrefixOf

theorem occurrences_eq_zero_iff {pattern t : Text} :
    occurrences pattern t = 0 ↔ ¬ pattern <:+: t := by
  rw [occurrences, List.countP_eq_zero, List.infix_iff_prefix_suffix]
  simp only [List.mem_tails, List.isPrefixOf_iff_prefix]
  constructor
  · rintro h ⟨tail, hprefix, hsuffix⟩
    exact h tail hsuffix hprefix
  · intro h tail hsuffix hprefix
    exact h ⟨tail, hprefix, hsuffix⟩

/-! ## A comma and a blank -/

theorem occurrences_cons (c : Char) (t : Text) :
    occurrences [',', ' '] (c :: t) =
      occurrences [',', ' '] t + if c = ',' ∧ t.head? = some ' ' then 1 else 0 := by
  have hfront : [',', ' '].isPrefixOf (c :: t) = true ↔ c = ',' ∧ t.head? = some ' ' := by
    rw [List.isPrefixOf_iff_prefix, List.cons_prefix_cons, List.singleton_prefix_iff_head?_eq_some,
      eq_comm]
  rw [occurrences, List.tails_cons, List.countP_cons, ← occurrences]
  simp only [hfront]

theorem occurrences_of_not_mem_append {w : Text} (h : ',' ∉ w) (t : Text) :
    occurrences [',', ' '] (w ++ t) = occurrences [',', ' '] t := by
  induction w with
  | nil => rfl
  | cons c w ih =>
      simp only [List.mem_cons, not_or] at h
      rw [List.cons_append, occurrences_cons, if_neg fun hc => h.1 hc.1.symm, ih h.2, Nat.add_zero]

/-- Where no blank follows, none of them is cut in two. -/
theorem occurrences_append {s t : Text} (h : t.head? ≠ some ' ') :
    occurrences [',', ' '] (s ++ t) = occurrences [',', ' '] s + occurrences [',', ' '] t := by
  induction s with
  | nil =>
      have hnil : occurrences [',', ' '] [] = 0 := rfl
      rw [List.nil_append, hnil, Nat.zero_add]
  | cons c s ih =>
      have hhead : (s ++ t).head? = some ' ' ↔ s.head? = some ' ' := by
        cases s with
        | nil => exact iff_of_false h (by simp)
        | cons d s => rfl
      simp only [List.cons_append, occurrences_cons, ih, hhead]
      omega

/-! ## Quotes have no commas and blanks but those of the text -/

theorem exists_quoteChar (c : Char) : quoteChar c = [c] ∨ ∃ u, quoteChar c = '\\' :: u := by
  rw [quoteChar]
  split_ifs
  · exact Or.inr ⟨_, rfl⟩
  · exact Or.inr ⟨_, rfl⟩
  · exact Or.inr ⟨_, rfl⟩
  · exact Or.inr ⟨_, rfl⟩
  · exact Or.inr ⟨_, rfl⟩
  · exact Or.inr ⟨_, rfl⟩
  · exact Or.inr ⟨_, rfl⟩
  · exact Or.inl rfl

theorem comma_not_mem_hex {n : Nat} : ',' ∉ hex n := by
  intro h
  exact absurd ((hex_read n).1 ',' h) (by decide)

theorem comma_not_mem_quoteChar {c : Char} (h : c ≠ ',') : ',' ∉ quoteChar c := by
  rw [quoteChar]
  split_ifs with hnull htab hreturn hfeed hquote hbackslash hhidden
  · decide
  · decide
  · decide
  · decide
  · decide
  · decide
  · simp [comma_not_mem_hex]
  · simpa using Ne.symm h

theorem head?_flatMap_quoteChar (t : Text) :
    (t.flatMap quoteChar).head? = some ' ' ↔ t.head? = some ' ' := by
  cases t with
  | nil => rfl
  | cons c t =>
      rw [List.flatMap_cons]
      rcases exists_quoteChar c with hbare | ⟨u, hescape⟩
      · rw [hbare]
        rfl
      · have hc : c ≠ ' ' := by
          rintro rfl
          exact absurd hescape (by simp [quoteChar, isHidden])
        rw [hescape]
        simp [hc]

theorem occurrences_flatMap_quoteChar (t : Text) :
    occurrences [',', ' '] (t.flatMap quoteChar) = occurrences [',', ' '] t := by
  induction t with
  | nil => rfl
  | cons c t ih =>
      rw [List.flatMap_cons, occurrences_cons]
      by_cases hc : c = ','
      · subst hc
        have hquote : quoteChar ',' = [','] := by simp [quoteChar, isHidden]
        simp only [hquote, List.singleton_append, occurrences_cons, head?_flatMap_quoteChar, ih]
      · rw [occurrences_of_not_mem_append (comma_not_mem_quoteChar hc), if_neg fun h => hc h.1, ih,
          Nat.add_zero]

end Text

/-! ## Tokens -/

theorem Kind.exists_name (k : Kind) :
    ∃ c w, k.name = c :: w ∧ c ≠ ' ' ∧ ',' ∉ k.name := by
  cases k
  all_goals exact ⟨_, _, rfl, by decide, by decide⟩

namespace Token

open Text (occurrences)

theorem head?_display_append (t : Token) (r : Text) : (t.display ++ r).head? ≠ some ' ' := by
  obtain ⟨c, w, hname, hblank, -⟩ := t.kind.exists_name
  simp [display, hname, hblank]

theorem occurrences_display (t : Token) :
    occurrences [',', ' '] t.display = occurrences [',', ' '] t.contents := by
  obtain ⟨-, -, -, -, hname⟩ := t.kind.exists_name
  have hdisplay : t.display =
      (t.kind.name ++ ['(', '"']) ++ (t.contents.flatMap Text.quoteChar ++ ['"', ')']) := by
    simp [display, Text.quoted]
  have hend : occurrences [',', ' '] ['"', ')'] = 0 := rfl
  rw [hdisplay, Text.occurrences_of_not_mem_append (by simp [hname]),
    Text.occurrences_append (by decide), Text.occurrences_flatMap_quoteChar, hend, Nat.add_zero]

/-- No token but a comment has a comma with a blank behind it. -/
theorem WellFormed.occurrences_eq_zero {t : Token} (h : t.WellFormed) (hk : t.kind ≠ .comment) :
    occurrences [',', ' '] t.contents = 0 := by
  by_cases hcomma : ',' ∈ t.contents
  · obtain ⟨c, rfl, -⟩ := h.punctuation (h.isPunctuation_of_delimiter hk hcomma rfl)
    obtain rfl := List.mem_singleton.1 hcomma
    rfl
  · have hnone := Text.occurrences_of_not_mem_append hcomma []
    rw [List.append_nil] at hnone
    rw [hnone]
    rfl

end Token

/-! ## Echoes -/

namespace Echo

open Text (occurrences)

/-- An echo of tokens, which are those of a line or any others. -/
def ofTokens (ts : List Token) : Text := ts.flatMap fun t => t.display ++ [',', ' ']

/-- Reads an echo. What is left behind a token is shorter than what it was read from, so that the
comparison never fails. -/
def read? (t : Text) : Option (List Token) :=
  if t = [] then some []
  else
    match Token.readDisplay? t with
    | some (token, ',' :: ' ' :: rest) =>
      if rest.length < t.length then (read? rest).map (token :: ·) else none
    | _ => none
termination_by t.length

theorem read?_ofTokens (ts : List Token) : read? (ofTokens ts) = some ts := by
  induction ts with
  | nil => rw [ofTokens, List.flatMap_nil, read?, if_pos rfl]
  | cons t ts ih =>
      have hcons : ofTokens (t :: ts) = t.display ++ ',' :: ' ' :: ofTokens ts := by
        simp [ofTokens]
      have hne : ofTokens (t :: ts) ≠ [] := by
        rw [hcons]
        simp
      have hlength : (ofTokens ts).length < (ofTokens (t :: ts)).length := by
        rw [hcons]
        simp only [List.length_append, List.length_cons]
        omega
      rw [read?, if_neg hne, hcons, Token.readDisplay?_display_append, ← hcons]
      simp only [hlength, if_true, ih, Option.map_some]

theorem occurrences_ofTokens (ts : List Token) :
    occurrences [',', ' '] (ofTokens ts) =
      ts.length + (ts.map fun t => occurrences [',', ' '] t.contents).sum := by
  induction ts with
  | nil => rfl
  | cons t ts ih =>
      have hcons : ofTokens (t :: ts) = t.display ++ ([',', ' '] ++ ofTokens ts) := by
        simp [ofTokens]
      have hone : occurrences [',', ' '] [',', ' '] = 1 := rfl
      have hhead : (ofTokens ts).head? ≠ some ' ' := by
        cases ts with
        | nil => simp [ofTokens]
        | cons u us =>
            rw [ofTokens, List.flatMap_cons, List.append_assoc]
            exact u.head?_display_append _
      rw [hcons, Text.occurrences_append (by simp), Text.occurrences_append hhead,
        Token.occurrences_display, hone, ih, List.map_cons, List.sum_cons, List.length_cons]
      omega

/-- Only comments have anything to add to the number of tokens. -/
theorem sum_occurrences {ts : List Token} (h : ∀ t ∈ ts, t.WellFormed) :
    (ts.map fun t => occurrences [',', ' '] t.contents).sum =
      ((ts.filter (·.kind = .comment)).map fun t => occurrences [',', ' '] t.contents).sum := by
  induction ts with
  | nil => rfl
  | cons t ts ih =>
      obtain ⟨ht, hts⟩ := List.forall_mem_cons.1 h
      rw [List.map_cons, List.sum_cons, ih hts]
      by_cases hk : t.kind = .comment
      · rw [List.filter_cons_of_pos (by simpa using hk), List.map_cons, List.sum_cons]
      · rw [List.filter_cons_of_neg (by simpa using hk), ht.occurrences_eq_zero hk, Nat.zero_add]

/-- The tokens of a line can be read off its echo, and they are the line, so that no two lines have
the same echo. It has a comma with a blank for each token and besides only those that stand in
comments; so these count the tokens exactly if no comment has any. -/
theorem echo_readable (line : Text) :
    read? (echo line) = some (scan line) ∧ Token.text (scan line) = line ∧
    (∀ other, echo other = echo line ↔ other = line) ∧
    occurrences [',', ' '] (echo line) = (scan line).length +
      (((scan line).filter (·.kind = .comment)).map fun t =>
        occurrences [',', ' '] t.contents).sum ∧
    (occurrences [',', ' '] (echo line) = (scan line).length ↔
      ∀ t ∈ scan line, t.kind = .comment → ¬ [',', ' '] <:+: t.contents) := by
  have hread (line : Text) : read? (echo line) = some (scan line) := read?_ofTokens (scan line)
  have hcount : occurrences [',', ' '] (echo line) = (scan line).length +
      (((scan line).filter (·.kind = .comment)).map fun t =>
        occurrences [',', ' '] t.contents).sum := by
    rw [← sum_occurrences fun t ht => wellFormed_of_mem_scan ht]
    exact occurrences_ofTokens (scan line)
  refine ⟨hread line, text_scan line, fun other => ⟨fun h => ?_, fun h => by rw [h]⟩, hcount, ?_⟩
  · have hscan := hread other
    rw [h, hread line, Option.some.injEq] at hscan
    rw [← text_scan other, ← hscan, text_scan]
  · simp only [hcount, Nat.add_eq_left, List.sum_eq_zero_iff_forall_eq_nat, List.forall_mem_map,
      List.mem_filter, decide_eq_true_eq, and_imp, Text.occurrences_eq_zero_iff]

end Echo

end LosslessScanner
