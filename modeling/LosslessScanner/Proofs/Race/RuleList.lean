import LosslessScanner.Proofs.Rules

/-!
# The ordered list of rules

The language is specified by rules that are tried one after the other, each of
which looks at the front of a text and either applies or does not. The list is
written down here as it is specified, with maximal runs taken by `takeWhile` and
sizes in bytes. `Lexeme.first`, which the scanner runs, tries the same rules in
the same order, but it splits the number rule in two and counts the characters
behind the first, so there is something to prove: `findSome?_rules` says that
the first rule that applies finds what the scanner takes, and in particular
that always one applies.
-/

namespace LosslessScanner.Race

/-- What is found in front of a text: nothing more, or a lexeme of some form
with its size in bytes. -/
inductive Found where
  | endOfFile
  | lexeme (form : Form) (size : Nat)
  deriving DecidableEq

/-- What the scanner finds. -/
def Found.front : Text → Found
  | [] => .endOfFile
  | c :: rest => .lexeme (Lexeme.first c rest).form (Token.first c rest).size

/-! ## The rules -/

def endOfFileRule : Text → Option Found
  | [] => some .endOfFile
  | _ :: _ => none

/-- A first character of one class, and all characters of another behind it. -/
def runRule (form : Form) (first more : Char → Bool) : Text → Option Found
  | [] => none
  | c :: rest =>
    if first c then some (.lexeme form (Text.byteSize (c :: rest.takeWhile more))) else none

def aloneRule (form : Form) (first : Char → Bool) : Text → Option Found :=
  runRule form first fun _ => false

/-- Digits, of which there may be none in front of a point, and then a fraction
if a point comes and digits behind it. A point alone is no number. -/
def numberRule (t : Text) : Option Found :=
  let whole := t.takeWhile isDigit
  let integer := if whole = [] then none else some (.lexeme .integer (Text.byteSize whole))
  match t.dropWhile isDigit with
  | '.' :: u =>
    let digits := u.takeWhile isDigit
    if digits = [] then integer
    else some (.lexeme .float (Text.byteSize (whole ++ '.' :: digits)))
  | _ => integer

/-- The rules in their order. The first that applies decides. -/
def rules : List (Text → Option Found) :=
  [endOfFileRule,
    runRule .blank isBlank isBlank,
    runRule .comment (· == '#') fun c => !isLineEnd c,
    runRule .word isLetter isWordTail,
    numberRule,
    aloneRule .delimiter isDelimiter,
    runRule .symbols isSymbol isSymbol,
    aloneRule .stray fun _ => true]

/-! ## The scanner tries the same rules -/

theorem front_cons (c : Char) (rest : Text) :
    Found.front (c :: rest) = .lexeme (Lexeme.first c rest).form
      (Text.byteSize (c :: rest.take (Lexeme.first c rest).more)) := rfl

theorem runRule_of_first {form : Form} {first more : Char → Bool} {c : Char} {rest : Text}
    (hc : first c) (h : Lexeme.first c rest = ⟨form, Text.run more rest⟩) :
    runRule form first more (c :: rest) = some (Found.front (c :: rest)) := by
  rw [front_cons, h, runRule, if_pos hc, Text.takeWhile_eq_take_run]

theorem aloneRule_of_first {form : Form} {first : Char → Bool} {c : Char} {rest : Text}
    (hc : first c) (h : Lexeme.first c rest = ⟨form, 0⟩) :
    aloneRule form first (c :: rest) = some (Found.front (c :: rest)) := by
  refine runRule_of_first hc (h.trans ?_)
  rw [Text.run_never]

theorem runRule_eq_none {form : Form} {first more : Char → Bool} {c : Char} {rest : Text}
    (hc : ¬ first c) : runRule form first more (c :: rest) = none := by
  rw [runRule, if_neg hc]

/-- Behind a digit the number rule applies, with or without a fraction. -/
theorem numberRule_of_digit {c : Char} {rest : Text} (hc : isDigit c) :
    numberRule (c :: rest) = some (Found.front (c :: rest)) := by
  have hwhole : (c :: rest).takeWhile isDigit = c :: rest.take (Text.run isDigit rest) := by
    rw [List.takeWhile_cons_of_pos hc, Text.takeWhile_eq_take_run]
  have hdrop : (c :: rest).dropWhile isDigit = rest.drop (Text.run isDigit rest) := by
    rw [List.dropWhile_cons_of_pos hc, Text.dropWhile_eq_drop_run]
  rw [numberRule, hwhole, hdrop]
  by_cases hf : Lexeme.fraction (rest.drop (Text.run isDigit rest)) = 0
  · rw [front_cons, (Lexeme.Applies.integer hc hf).first_eq]
    split
    · next u hu =>
        rw [hu, Lexeme.fraction_eq_zero_iff, Text.beginsFraction, ← Text.run_eq_zero_iff] at hf
        rw [Text.takeWhile_eq_take_run, hf, List.take_zero]
        rfl
    · rfl
  · obtain ⟨u, hu, hbegins, hfraction⟩ := Lexeme.exists_of_fraction hf
    rw [front_cons, (Lexeme.Applies.float hc hf).first_eq, List.take_add, hu]
    rw [hu] at hfraction
    rw [hfraction, List.take_succ_cons]
    simp only [Text.takeWhile_eq_take_run, if_neg (Text.take_run_ne_nil hbegins)]
    rfl

/-- A point that a digit follows is a number without a whole part. -/
theorem numberRule_of_point {rest : Text} (h : rest.begins isDigit = true) :
    numberRule ('.' :: rest) = some (Found.front ('.' :: rest)) := by
  have hwhole : ('.' :: rest).takeWhile isDigit = [] := rfl
  have hdrop : ('.' :: rest).dropWhile isDigit = '.' :: rest := rfl
  rw [front_cons, (Lexeme.Applies.pointFloat h).first_eq, numberRule, hwhole, hdrop]
  simp only [Text.takeWhile_eq_take_run, if_neg (Text.take_run_ne_nil h)]
  rfl

theorem numberRule_eq_none {c : Char} {rest : Text} (hc : ¬ isDigit c)
    (hpoint : ¬ (c = '.' ∧ Text.run isDigit rest ≠ 0)) : numberRule (c :: rest) = none := by
  have hwhole : (c :: rest).takeWhile isDigit = [] := List.takeWhile_cons_of_neg hc
  have hdrop : (c :: rest).dropWhile isDigit = c :: rest := List.dropWhile_cons_of_neg hc
  rw [numberRule, hwhole, hdrop]
  split
  · next u hu =>
      obtain ⟨rfl, rfl⟩ := List.cons.inj hu
      have hrun : Text.run isDigit rest = 0 := Decidable.not_not.1 fun h => hpoint ⟨rfl, h⟩
      rw [Text.takeWhile_eq_take_run, hrun]
      rfl
  · rfl

/-- The first rule of the list that applies finds what the scanner takes. -/
theorem findSome?_rules (t : Text) : rules.findSome? (· t) = some (Found.front t) := by
  cases t with
  | nil => rfl
  | cons c rest =>
      simp only [rules, List.findSome?_cons, List.findSome?_nil, endOfFileRule]
      by_cases hblank : isBlank c
      · rw [runRule_of_first hblank (by rw [Lexeme.first, if_pos hblank])]
      rw [runRule_eq_none hblank]
      by_cases hhash : c = '#'
      · have hcomment : runRule .comment (· == '#') (fun d => !isLineEnd d) (c :: rest) =
            some (Found.front (c :: rest)) :=
          runRule_of_first (beq_iff_eq.2 hhash) (by rw [Lexeme.first, if_neg hblank, if_pos hhash])
        rw [hcomment]
      have hcomment : runRule .comment (· == '#') (fun d => !isLineEnd d) (c :: rest) = none :=
        runRule_eq_none fun h => hhash (beq_iff_eq.1 h)
      rw [hcomment]
      by_cases hletter : isLetter c
      · rw [runRule_of_first hletter
          (by rw [Lexeme.first, if_neg hblank, if_neg hhash, if_pos hletter])]
      rw [runRule_eq_none hletter]
      by_cases hdigit : isDigit c
      · rw [numberRule_of_digit hdigit]
      by_cases hpoint : c = '.' ∧ Text.run isDigit rest ≠ 0
      · obtain ⟨rfl, hrun⟩ := hpoint
        rw [ne_eq, Text.run_eq_zero_iff, Bool.not_eq_false] at hrun
        rw [numberRule_of_point hrun]
      rw [numberRule_eq_none hdigit hpoint]
      have hlast : Lexeme.first c rest =
          if isDelimiter c then ⟨.delimiter, 0⟩
          else if isSymbol c then ⟨.symbols, Text.run isSymbol rest⟩ else ⟨.stray, 0⟩ := by
        rw [Lexeme.first, if_neg hblank, if_neg hhash, if_neg hletter, if_neg hdigit,
          if_neg hpoint]
      by_cases hdelim : isDelimiter c
      · rw [aloneRule_of_first hdelim (by rw [hlast, if_pos hdelim])]
      rw [aloneRule, runRule_eq_none hdelim]
      by_cases hsymbol : isSymbol c
      · rw [runRule_of_first hsymbol (by rw [hlast, if_neg hdelim, if_pos hsymbol])]
      have hstray : aloneRule .stray (fun _ => true) (c :: rest) =
          some (Found.front (c :: rest)) :=
        aloneRule_of_first rfl (by rw [hlast, if_neg hdelim, if_neg hsymbol])
      rw [runRule_eq_none hsymbol, hstray]

end LosslessScanner.Race
