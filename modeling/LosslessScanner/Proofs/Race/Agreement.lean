import LosslessScanner.Proofs.Race.Winner
import LosslessScanner.Scan.Cursor

/-!
# The race and the rules agree

Longest match and first applicable rule are different disciplines, and no
theorem says that they agree in general. Here they do, because two patterns
hardly ever meet: the classes they begin with are apart, except that a hash and
a point are symbols as well. At a hash the comment wins, since symbols do not
hold a line end and a run of them is never longer than the comment; only if it
is as long does the priority speak. At a point the symbols win if another one
follows, and otherwise both have one character and the priority gives it to the
point.

So the race has the outcome that the scanner takes (`raced_front`), hence no
other, and this is also what the first applicable rule finds.
-/

namespace LosslessScanner.Race

/-! ## Who meets whom -/

/-- The class that a pattern begins with, when a hash and a point count as the
symbols that they are. -/
def Contender.base : Contender → Contender
  | comment | point => symbols
  | k => k

/-- The only pattern that begins with a character, up to that. -/
def baseOf (c : Char) : Option Contender :=
  if isBlank c then some .blanks
  else if isLetter c then some .word
  else if isDigit c then some .digits
  else if isDelimiter c then some .delimiter
  else if isSymbol c then some .symbols
  else none

theorem baseOf_of_symbol {c : Char} (h : isSymbol c) : baseOf c = some .symbols := by
  obtain ⟨hletter, hdigit, hblank, -, hdelim⟩ := isSymbol_iff.1 h
  simp [baseOf, hletter, hdigit, hblank, hdelim, h]

theorem baseOf_of_head {k : Contender} {c : Char} (h : k.head c) :
    baseOf c = some k.base := by
  cases k with
  | blanks =>
      have hblank : isBlank c := h
      simp [baseOf, hblank, Contender.base]
  | comment =>
      obtain rfl : c = '#' := beq_iff_eq.1 h
      exact baseOf_of_symbol isSymbol_hash
  | word =>
      have hletter : isLetter c := h
      simp [baseOf, not_blank_of_letter hletter, hletter, Contender.base]
  | digits =>
      have hdigit : isDigit c := h
      simp [baseOf, not_blank_of_digit hdigit, not_letter_of_digit hdigit, hdigit,
        Contender.base]
  | point =>
      obtain rfl : c = '.' := beq_iff_eq.1 h
      exact baseOf_of_symbol isSymbol_point
  | delimiter =>
      have hdelim : isDelimiter c := h
      simp [baseOf, not_blank_of_delimiter hdelim, not_letter_of_delimiter hdelim,
        not_digit_of_delimiter hdelim, hdelim, Contender.base]
  | symbols => exact baseOf_of_symbol h

/-- Apart from what begins with a symbol, a pattern that can begin at a
character is the only one that can. -/
theorem eq_of_head {j k : Contender} {c : Char} (hk : k.head c) (hbase : k.base ≠ .symbols)
    (hj : j.head c) : j = k := by
  have h : j.base = k.base :=
    Option.some.inj ((baseOf_of_head hj).symm.trans (baseOf_of_head hk))
  clear hj hk
  revert h hbase
  cases j <;> cases k <;> decide

theorem head_of_symbol {j : Contender} {c : Char} (hc : isSymbol c) (hj : j.head c) :
    j = .symbols ∨ (j = .comment ∧ c = '#') ∨ (j = .point ∧ c = '.') := by
  have hbase : j.base = .symbols :=
    Option.some.inj ((baseOf_of_head hj).symm.trans (baseOf_of_symbol hc))
  cases j with
  | symbols => exact Or.inl rfl
  | comment => exact Or.inr (Or.inl ⟨rfl, beq_iff_eq.1 hj⟩)
  | point => exact Or.inr (Or.inr ⟨rfl, beq_iff_eq.1 hj⟩)
  | blanks | word | digits | delimiter => exact Contender.noConfusion hbase

/-! ## Who wins -/

theorem byteSize_stretch_lt {j k : Contender} {c : Char} {rest : Text}
    (h : Text.run j.tail rest < Text.run k.tail rest) :
    (j.stretch c rest).byteSize < (k.stretch c rest).byteSize := by
  have hfront : j.stretch c rest <+: k.stretch c rest :=
    List.cons_prefix_cons.2 ⟨rfl, List.take_prefix_take_left (Nat.le_of_lt h)⟩
  refine Nat.lt_of_not_le fun hle => ?_
  have hlength := congrArg List.length (Text.eq_of_prefix_of_byteSize_le hfront hle)
  simp only [Contender.stretch, List.length_cons, Text.length_take_run] at hlength
  omega

/-- A pattern wins if every other that can begin here has a shorter run behind
the first character, or one as long and a lower priority. -/
theorem wins_of_run {given : Contender → Nat} {k : Contender} {c : Char} {rest : Text}
    (hk : k.head c) (hothers : ∀ j, j ≠ k → j.head c →
      Text.run j.tail rest < Text.run k.tail rest ∨
        (Text.run j.tail rest = Text.run k.tail rest ∧ j.priority given < k.priority given)) :
    Wins given (c :: rest) k (k.stretch c rest) := by
  refine ⟨longest_iff.2 ⟨hk, rfl⟩, fun j u hne hu => ?_⟩
  obtain ⟨hj, rfl⟩ := longest_iff.1 hu
  rcases hothers j hne hj with h | ⟨h, hprio⟩
  · exact Or.inl (byteSize_stretch_lt h)
  · refine Or.inr ⟨?_, hprio⟩
    rw [Contender.stretch, Contender.stretch, h]

theorem wins_of_base {given : Contender → Nat} {k : Contender} {c : Char} {rest : Text}
    (hk : k.head c) (hbase : k.base ≠ .symbols) :
    Wins given (c :: rest) k (k.stretch c rest) :=
  wins_of_run hk fun _ hne hj => absurd (eq_of_head hk hbase hj) hne

/-! ## The winner is what the scanner takes -/

def Contender.found (k : Contender) (c : Char) (rest : Text) : Found :=
  let (shape, size) := k.outcome (k.stretch c rest) (rest.drop (Text.run k.tail rest))
  .lexeme shape.form size

variable {given : Contender → Nat} {c : Char} {rest : Text}

theorem raced_of_wins {k : Contender} (h : Wins given (c :: rest) k (k.stretch c rest)) :
    Raced given (c :: rest) (k.found c rest) := by
  have hdrop : (c :: rest).drop (k.stretch c rest).length =
      rest.drop (Text.run k.tail rest) := by
    rw [Contender.stretch, List.length_cons, Text.length_take_run, List.drop_succ_cons]
  refine ⟨_, .won h, ?_⟩
  rw [hdrop]
  rfl

/-- A match that is taken as it is, is what the scanner finds if it has the
same first class and the same run. -/
theorem found_eq_front (k : Contender) {shape : Shape}
    (houtcome : ∀ s t, k.outcome s t = (shape, Text.byteSize s))
    (h : Lexeme.first c rest = ⟨shape.form, Text.run k.tail rest⟩) :
    k.found c rest = Found.front (c :: rest) := by
  rw [front_cons, h, Contender.found, houtcome]
  rfl

theorem byteSize_take_digits (t : Text) :
    Text.byteSize (t.take (Text.run isDigit t)) = Text.run isDigit t := by
  induction t with
  | nil => rfl
  | cons c t ih =>
      rw [Text.run]
      split
      · next hc =>
          have hsize : c.utf8Size = 1 := by
            rw [Char.utf8Size_eq_one_iff, UInt32.le_iff_toNat_le]
            exact Nat.le_trans (isDigit_iff.1 hc).2 (by decide)
          rw [List.take_succ_cons, Text.byteSize_cons, ih, hsize, Nat.add_comm]
      · rfl

theorem byteSize_take_fraction (t : Text) :
    Text.byteSize (t.take (Lexeme.fraction t)) = Lexeme.fraction t := by
  by_cases hf : Lexeme.fraction t = 0
  · rw [hf]
    rfl
  · obtain ⟨u, rfl, -, hfraction⟩ := Lexeme.exists_of_fraction hf
    rw [hfraction, List.take_succ_cons, Text.byteSize_cons, byteSize_take_digits]
    exact Nat.add_comm 1 _

theorem found_digits (hc : isDigit c) :
    Contender.digits.found c rest = Found.front (c :: rest) := by
  have hslice : Contender.digits.stretch c rest ≠ ['.'] := fun h => by
    rw [(List.cons.inj h).1] at hc
    exact absurd hc (by decide)
  have htail : Contender.digits.tail = isDigit := rfl
  rw [Contender.found, Contender.outcome, number_digits hslice, htail]
  by_cases hf : Lexeme.fraction (rest.drop (Text.run isDigit rest)) = 0
  · rw [front_cons, (Lexeme.Applies.integer hc hf).first_eq]
    rw [if_pos hf]
    rfl
  · rw [front_cons, (Lexeme.Applies.float hc hf).first_eq]
    rw [if_neg hf, List.take_add, ← List.cons_append, Text.byteSize_append,
      byteSize_take_fraction]
    rfl

theorem stretch_point (rest : Text) : Contender.point.stretch '.' rest = ['.'] := by
  rw [Contender.stretch, Contender.tail, Text.run_never, List.take_zero]

theorem found_point (h : rest.begins isDigit = true) :
    Contender.point.found '.' rest = Found.front ('.' :: rest) := by
  rw [front_cons, (Lexeme.Applies.pointFloat h).first_eq, Contender.found,
    Contender.outcome, stretch_point, number_point]
  simp only [Contender.tail, Text.run_never, List.drop_zero,
    if_neg (Text.run_ne_zero h), Text.byteSize_cons, byteSize_take_digits]
  rfl

/-- Otherwise it is a symbol alone, provided that no symbol follows either. -/
theorem found_lonePoint (hdigit : rest.begins isDigit = false)
    (hsymbol : Text.run isSymbol rest = 0) :
    Contender.point.found '.' rest = Found.front ('.' :: rest) := by
  have hfirst : Lexeme.first '.' rest = ⟨.symbols, Text.run isSymbol rest⟩ :=
    (Lexeme.Applies.symbols isSymbol_point (by decide) fun _ => hdigit).first_eq
  rw [front_cons, hfirst, hsymbol, Contender.found, Contender.outcome, stretch_point, number_point]
  simp only [Contender.tail, Text.run_never, List.drop_zero,
    if_pos (Text.run_eq_zero_iff.2 hdigit)]
  rfl

/-! ## Symbols against comments and points -/

theorem run_symbols_le_comment (t : Text) :
    Text.run isSymbol t ≤ Text.run (fun d => !isLineEnd d) t := by
  refine Text.run_le_run (fun d hd => ?_) t
  obtain ⟨-, -, -, hcontrol, -⟩ := isSymbol_iff.1 hd
  rw [Bool.not_eq_true', Bool.eq_false_iff]
  intro hend
  rw [isLineEnd, Bool.or_eq_true, beq_iff_eq, beq_iff_eq] at hend
  rcases hend with rfl | rfl
  · exact absurd hcontrol (by decide)
  · exact absurd hcontrol (by decide)

theorem run_symbols_of_digit {t : Text} (h : t.begins isDigit = true) :
    Text.run isSymbol t = 0 := by
  rw [Text.run_eq_zero_iff]
  cases t with
  | nil => rfl
  | cons d t =>
      have hdigit : isDigit d = true := h
      rw [Text.begins_cons, isSymbol, hdigit, Bool.or_true]
      rfl

/-- At a hash the comment wins, if only by its priority. -/
theorem wins_comment (hsymbols : given .symbols < 3) :
    Wins given ('#' :: rest) .comment (Contender.comment.stretch '#' rest) := by
  refine wins_of_run rfl fun j hne hj => ?_
  rcases head_of_symbol isSymbol_hash hj with rfl | ⟨rfl, -⟩ | ⟨rfl, hpoint⟩
  · rcases Nat.lt_or_eq_of_le (run_symbols_le_comment rest) with h | h
    · exact Or.inl h
    · exact Or.inr ⟨h, hsymbols⟩
  · exact absurd rfl hne
  · exact absurd hpoint (by decide)

/-- At a point that no symbol follows the point wins, by its priority. -/
theorem wins_point (hsymbols : given .symbols < 3) (h : Text.run isSymbol rest = 0) :
    Wins given ('.' :: rest) .point (Contender.point.stretch '.' rest) := by
  refine wins_of_run rfl fun j hne hj => ?_
  rcases head_of_symbol isSymbol_point hj with rfl | ⟨rfl, hhash⟩ | ⟨rfl, -⟩
  · exact Or.inr ⟨h.trans (Text.run_never rest).symm, hsymbols⟩
  · exact absurd hhash (by decide)
  · exact absurd rfl hne

theorem wins_symbols (hc : isSymbol c) (hash : c ≠ '#')
    (point : c = '.' → Text.run isSymbol rest ≠ 0) :
    Wins given (c :: rest) .symbols (Contender.symbols.stretch c rest) := by
  refine wins_of_run hc fun j hne hj => ?_
  rcases head_of_symbol hc hj with rfl | ⟨rfl, hhash⟩ | ⟨rfl, hpoint⟩
  · exact absurd rfl hne
  · exact absurd hhash hash
  · refine Or.inl ?_
    rw [Contender.tail, Text.run_never]
    exact Nat.pos_of_ne_zero (point hpoint)

theorem not_matches_of_stray (hc : isStray c) {k : Contender} {s : Text}
    (hs : s <+: c :: rest) : ¬ Matches k.regex s := by
  intro fits
  have hbase := baseOf_of_head (prefix_stretch hs fits).1
  obtain ⟨hcontrol, hblank⟩ := isStray_iff.1 hc
  simp [baseOf, hblank, not_letter_of_control hcontrol, not_digit_of_control hcontrol,
    not_delimiter_of_control hcontrol, isSymbol, hcontrol] at hbase

/-! ## Agreement -/

/-- What the scanner finds is an outcome of the race. -/
theorem raced_front (hsymbols : given .symbols < 3) (t : Text) :
    Raced given t (Found.front t) := by
  cases t with
  | nil =>
      refine ⟨none, .failed fun k s hs fits => ?_, rfl⟩
      rw [List.prefix_nil.1 hs] at fits
      exact not_matches_nil fits
  | cons c rest =>
      generalize hl : Lexeme.first c rest = l
      have happlies := Lexeme.first_eq_iff.1 hl
      cases happlies with
      | blank h =>
          rw [← found_eq_front .blanks (fun _ _ => rfl) hl]
          exact raced_of_wins (wins_of_base h (by decide))
      | comment =>
          rw [← found_eq_front .comment (fun _ _ => rfl) hl]
          exact raced_of_wins (wins_comment hsymbols)
      | word h =>
          rw [← found_eq_front .word (fun _ _ => rfl) hl]
          exact raced_of_wins (wins_of_base h (by decide))
      | integer h _ | float h _ =>
          rw [← found_digits h]
          exact raced_of_wins (wins_of_base h (by decide))
      | pointFloat h =>
          rw [← found_point h]
          exact raced_of_wins (wins_point hsymbols (run_symbols_of_digit h))
      | delimiter h =>
          rw [← Text.run_never rest] at hl
          rw [← found_eq_front .delimiter (fun _ _ => rfl) hl]
          exact raced_of_wins (wins_of_base h (by decide))
      | symbols h hash point =>
          -- The one run of symbols that the symbols do not win is a lone point.
          by_cases hlone : c = '.' ∧ Text.run isSymbol rest = 0
          · obtain ⟨rfl, hrun⟩ := hlone
            rw [← found_lonePoint (point rfl) hrun]
            exact raced_of_wins (wins_point hsymbols hrun)
          · rw [← found_eq_front .symbols (fun _ _ => rfl) hl]
            exact raced_of_wins (wins_symbols h hash fun hc hrun => hlone ⟨hc, hrun⟩)
      | stray h =>
          refine ⟨none, .failed fun k s hs => not_matches_of_stray h hs, ?_⟩
          rw [front_cons, hl]
          rfl

/-- A token is what was found in front of a text. -/
def Found.IsToken (t : Text) (u : Token) : Found → Prop
  | endOfFile => u = Token.endOfFile
  | lexeme form size => u.contents <+: t ∧ u.size = size ∧ u.kind = form.kind u.contents

theorem isToken_front (t : Text) : (Found.front t).IsToken t (Cursor.start t).peek := by
  cases t with
  | nil => rfl
  | cons c rest => exact ⟨List.cons_prefix_cons.2 ⟨rfl, List.take_prefix _ _⟩, rfl, rfl⟩

/-- Provided that symbols have a lower priority than the two patterns that
declare one, the race finds in front of a text what the first applicable rule
finds, and the next token is made of it. -/
theorem raced_iff_rules (given : Contender → Nat) (hsymbols : given .symbols < 3)
    (t : Text) :
    (∀ o, Raced given t o ↔ rules.findSome? (· t) = some o) ∧
      ∃ o, Raced given t o ∧ o.IsToken t (Cursor.start t).peek := by
  have hfront := raced_front hsymbols t
  refine ⟨fun o => ?_, _, hfront, isToken_front t⟩
  rw [findSome?_rules, Option.some.injEq]
  constructor
  · exact fun h => hfront.unique h
  · rintro rfl
    exact hfront

/-- A point and the symbol run that it is have one character each; the point
wins, and is extended. -/
theorem raced_point_digit : (fun _ : Contender => 2) .symbols < 3 ∧
    Raced (fun _ => 2) ['.', '5'] (.lexeme .float 2) :=
  ⟨by decide, ((raced_iff_rules (fun _ => 2) (by decide) ['.', '5']).1 _).2
    (by decide +kernel)⟩

end LosslessScanner.Race
