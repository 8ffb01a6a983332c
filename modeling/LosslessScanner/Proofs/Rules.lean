import LosslessScanner.Proofs.Classes
import LosslessScanner.Scan.Lexeme

/-!
# The rules exclude each other

`Lexeme.first` tries its rules in an order. Here the order is removed: each
rule is written down with the condition under which it applies, and
`Lexeme.first_eq_iff` says that exactly one of them ever does. This is the
form in which the rest of the theory uses the scanner. To analyse a lexeme is
to take the nine cases of `Lexeme.Applies`, and to predict one is to name the
case.

A case speaks of the text behind the first character only through runs, so the
file opens with what has to be known about those.
-/

namespace LosslessScanner

namespace Text

/-! ## Runs and what stops them -/

/-- A text begins with a character of the class `p`. -/
def begins (p : Char → Bool) (t : Text) : Bool := t.head?.any p

@[simp] theorem begins_nil (p : Char → Bool) : begins p [] = false := rfl

@[simp] theorem begins_cons (p : Char → Bool) (c : Char) (t : Text) :
    begins p (c :: t) = p c := rfl

theorem run_eq_zero_iff {p : Char → Bool} {t : Text} :
    run p t = 0 ↔ begins p t = false := by
  cases t with
  | nil => simp
  | cons c t => by_cases h : p c <;> simp [run, h]

theorem run_ne_zero {p : Char → Bool} {t : Text} (h : begins p t = true) : run p t ≠ 0 := by
  intro h0
  rw [run_eq_zero_iff, h] at h0
  exact Bool.noConfusion h0

theorem begins_drop_run (p : Char → Bool) (t : Text) :
    begins p (t.drop (run p t)) = false := by
  cases hd : (t.drop (run p t)).head? with
  | none => rw [begins, hd]; rfl
  | some c =>
      rw [begins, hd]
      exact head?_drop_run hd

theorem length_take_run (p : Char → Bool) (t : Text) :
    (t.take (run p t)).length = run p t := by
  have := run_le_length p t
  rw [List.length_take]
  omega

theorem mem_cons_take_run {p : Char → Bool} {c : Char} {t : Text} (hc : p c) :
    ∀ d ∈ c :: t.take (run p t), p d := by
  intro d hd
  rcases List.mem_cons.1 hd with rfl | hd
  · exact hc
  · exact mem_take_run hd

theorem take_run_ne_nil {p : Char → Bool} {t : Text} (h : begins p t = true) :
    t.take (run p t) ≠ [] := by
  intro hnil
  have hrun := length_take_run p t
  rw [hnil, List.length_nil] at hrun
  exact run_ne_zero h hrun.symm

/-- A stretch of the class that cannot go on is the run. -/
theorem run_append {p : Char → Bool} {w r : Text} (hw : ∀ c ∈ w, p c)
    (hr : begins p r = false) : run p (w ++ r) = w.length := by
  induction w with
  | nil => exact run_eq_zero_iff.2 hr
  | cons c w ih =>
      have hc : p c := hw c (by simp)
      have hrest := ih fun d hd => hw d (by simp [hd])
      simp [run, hc, hrest]

theorem length_le_run {p : Char → Bool} {s t : Text} (h : s <+: t) (hs : ∀ c ∈ s, p c) :
    s.length ≤ run p t := by
  induction s generalizing t with
  | nil => exact Nat.zero_le _
  | cons c s ih =>
      obtain ⟨u, rfl⟩ := h
      have hc : p c := hs c List.mem_cons_self
      have hrest := ih (List.prefix_append s u) fun d hd => hs d (List.mem_cons_of_mem c hd)
      rw [List.cons_append, run, if_pos hc, List.length_cons]
      exact Nat.succ_le_succ hrest

theorem run_never (t : Text) : run (fun _ => false) t = 0 := by
  rw [run_eq_zero_iff]
  cases t with
  | nil => rfl
  | cons c t => rfl

theorem run_le_run {p q : Char → Bool} (h : ∀ c, p c → q c) (t : Text) : run p t ≤ run q t :=
  Nat.le_trans (Nat.le_of_eq (length_take_run p t).symm)
    (length_le_run (List.take_prefix _ t) fun c hc => h c (mem_take_run hc))

theorem takeWhile_eq_take_run (p : Char → Bool) (t : Text) :
    t.takeWhile p = t.take (run p t) := by
  induction t with
  | nil => rfl
  | cons c t ih => by_cases h : p c <;> simp [run, h, ih]

theorem dropWhile_eq_drop_run (p : Char → Bool) (t : Text) :
    t.dropWhile p = t.drop (run p t) := by
  induction t with
  | nil => rfl
  | cons c t ih => by_cases h : p c <;> simp [run, h, ih]

section Stretch

variable {p : Char → Bool} {w r : Text} (hw : ∀ c ∈ w, p c) (hr : begins p r = false)

include hw hr

theorem takeWhile_stretch : (w ++ r).takeWhile p = w := by
  rw [takeWhile_eq_take_run, run_append hw hr, List.take_left]

theorem dropWhile_stretch : (w ++ r).dropWhile p = r := by
  rw [dropWhile_eq_drop_run, run_append hw hr, List.drop_left]

end Stretch

theorem begins_wordTail {t : Text} (h : (!begins isLetter t && !begins isDigit t) = true) :
    begins isWordTail t = false := by
  cases t with
  | nil => rfl
  | cons c t => simpa [isWordTail] using h

/-! ## Fractions -/

/-- A text begins with a point that a digit follows. -/
def beginsFraction : Text → Bool
  | '.' :: t => begins isDigit t
  | _ => false

end Text

namespace Lexeme

theorem fraction_point (t : Text) (h : t.begins isDigit = true) :
    fraction ('.' :: t) = Text.run isDigit t + 1 := by
  simp [fraction, Text.run_ne_zero h]

theorem fraction_eq_zero_iff {t : Text} :
    fraction t = 0 ↔ t.beginsFraction = false := by
  unfold fraction
  split
  · next u =>
      rw [Text.beginsFraction, ← Text.run_eq_zero_iff]
      split
      · next hrun => simp [hrun]
      · next hrun => simp [hrun]
  · next h =>
      refine iff_of_true rfl ?_
      unfold Text.beginsFraction
      split
      · next u => exact absurd rfl (h u)
      · rfl

/-- A fraction that is there is a point and all digits behind it. -/
theorem exists_of_fraction {t : Text} (h : fraction t ≠ 0) :
    ∃ u : Text, t = '.' :: u ∧ u.begins isDigit = true ∧ fraction t = Text.run isDigit u + 1 := by
  have hb : t.beginsFraction = true := by
    rw [← Bool.not_eq_false]
    exact fun h0 => h (fraction_eq_zero_iff.2 h0)
  unfold Text.beginsFraction at hb
  split at hb
  · next u => exact ⟨u, rfl, hb, fraction_point u hb⟩
  · exact Bool.noConfusion hb

/-! ## The rules without an order -/

/-- A rule applies to the text `c :: rest` and gives a lexeme. -/
inductive Applies : Char → Text → Lexeme → Prop where
  | blank {c : Char} {rest : Text} (h : isBlank c) :
      Applies c rest ⟨.blank, Text.run isBlank rest⟩
  | comment {rest : Text} :
      Applies '#' rest ⟨.comment, Text.run (fun d => !isLineEnd d) rest⟩
  | word {c : Char} {rest : Text} (h : isLetter c) :
      Applies c rest ⟨.word, Text.run isWordTail rest⟩
  | integer {c : Char} {rest : Text} (h : isDigit c)
      (hf : fraction (rest.drop (Text.run isDigit rest)) = 0) :
      Applies c rest ⟨.integer, Text.run isDigit rest⟩
  | float {c : Char} {rest : Text} (h : isDigit c)
      (hf : fraction (rest.drop (Text.run isDigit rest)) ≠ 0) :
      Applies c rest ⟨.float, Text.run isDigit rest +
        fraction (rest.drop (Text.run isDigit rest))⟩
  | pointFloat {rest : Text} (h : rest.begins isDigit = true) :
      Applies '.' rest ⟨.float, Text.run isDigit rest⟩
  | delimiter {c : Char} {rest : Text} (h : isDelimiter c) :
      Applies c rest ⟨.delimiter, 0⟩
  | symbols {c : Char} {rest : Text} (h : isSymbol c) (hash : c ≠ '#')
      (point : c = '.' → rest.begins isDigit = false) :
      Applies c rest ⟨.symbols, Text.run isSymbol rest⟩
  | stray {c : Char} {rest : Text} (h : isStray c) :
      Applies c rest ⟨.stray, 0⟩

theorem number_eq_integer {rest : Text}
    (hf : fraction (rest.drop (Text.run isDigit rest)) = 0) :
    number rest = ⟨.integer, Text.run isDigit rest⟩ := by
  simp [number, hf]

theorem number_eq_float {rest : Text}
    (hf : fraction (rest.drop (Text.run isDigit rest)) ≠ 0) :
    number rest = ⟨.float, Text.run isDigit rest +
      fraction (rest.drop (Text.run isDigit rest))⟩ := by
  simp only [number]

theorem applies_first (c : Char) (rest : Text) : Applies c rest (first c rest) := by
  simp only [first]
  split
  · next h => exact .blank h
  next hblank =>
  split
  · next h => subst h; exact .comment
  next hhash =>
  split
  · next h => exact .word h
  next hletter =>
  split
  · next h =>
      by_cases hf : fraction (rest.drop (Text.run isDigit rest)) = 0
      · rw [number_eq_integer hf]
        exact .integer h hf
      · rw [number_eq_float hf]
        exact .float h hf
  next hdigit =>
  split
  · next h =>
      obtain ⟨rfl, hrun⟩ := h
      rw [ne_eq, Text.run_eq_zero_iff, Bool.not_eq_false] at hrun
      exact .pointFloat hrun
  next hpoint =>
  split
  · next h => exact .delimiter h
  next hdelim =>
  split
  · next h =>
      refine .symbols h hhash fun hc => ?_
      rw [← Text.run_eq_zero_iff]
      exact Decidable.not_not.1 fun hrun => hpoint ⟨hc, hrun⟩
  next hsymbol =>
  rcases class_cases c with h | h | h | h | h | h
  · exact absurd h hblank
  · exact absurd h hletter
  · exact absurd h hdigit
  · exact absurd h hdelim
  · exact absurd h hsymbol
  · exact .stray h

/-- A rule that applies is the one that `first` settles on: the classes are
apart, so none of the rules before it can come in between. -/
theorem Applies.first_eq {c : Char} {rest : Text} {l : Lexeme} (h : Applies c rest l) :
    first c rest = l := by
  cases h with
  | blank h => simp [first, h]
  | comment =>
      have hblank : isBlank '#' = false := by decide
      simp [first, hblank]
  | word h =>
      have hblank := not_blank_of_letter h
      have hhash : c ≠ '#' := fun hc => by
        rw [hc] at h
        exact absurd h (by simp [(isSymbol_iff.1 isSymbol_hash).1])
      simp [first, hblank, hhash, h]
  | integer h hf =>
      have hblank := not_blank_of_digit h
      have hletter := not_letter_of_digit h
      have hhash : c ≠ '#' := fun hc => by rw [hc] at h; exact absurd h (by decide)
      simp [first, hblank, hhash, hletter, h, number_eq_integer hf]
  | float h hf =>
      have hblank := not_blank_of_digit h
      have hletter := not_letter_of_digit h
      have hhash : c ≠ '#' := fun hc => by rw [hc] at h; exact absurd h (by decide)
      simp [first, hblank, hhash, hletter, h, number_eq_float hf]
  | pointFloat h =>
      obtain ⟨hletter, hdigit, hblank, -, -⟩ := isSymbol_iff.1 isSymbol_point
      simp [first, hblank, hletter, hdigit, Text.run_ne_zero h]
  | delimiter h =>
      have hblank := not_blank_of_delimiter h
      have hletter := not_letter_of_delimiter h
      have hdigit := not_digit_of_delimiter h
      have hhash : c ≠ '#' := fun hc => by rw [hc] at h; exact absurd h (by decide)
      have hpoint : c ≠ '.' := fun hc => by rw [hc] at h; exact absurd h (by decide)
      simp [first, hblank, hhash, hletter, hdigit, hpoint, h]
  | symbols h hash point =>
      obtain ⟨hletter, hdigit, hblank, -, hdelim⟩ := isSymbol_iff.1 h
      have hpoint : ¬ (c = '.' ∧ Text.run isDigit rest ≠ 0) := fun hc =>
        hc.2 (Text.run_eq_zero_iff.2 (point hc.1))
      simp only [first, hblank, hash, hletter, hdigit, hpoint, hdelim, h, if_true,
        if_false, Bool.false_eq_true]
  | stray h =>
      obtain ⟨hcontrol, hblank⟩ := isStray_iff.1 h
      have hletter := not_letter_of_control hcontrol
      have hdigit := not_digit_of_control hcontrol
      have hdelim := not_delimiter_of_control hcontrol
      have hsymbol : isSymbol c = false := by simp [isSymbol, hcontrol]
      have hhash : c ≠ '#' := fun hc => by rw [hc] at hcontrol; exact absurd hcontrol (by decide)
      have hpoint : c ≠ '.' := fun hc => by rw [hc] at hcontrol; exact absurd hcontrol (by decide)
      simp [first, hblank, hhash, hletter, hdigit, hpoint, hdelim, hsymbol]

/-- Exactly one rule applies, so their order decides nothing. -/
theorem first_eq_iff {c : Char} {rest : Text} {l : Lexeme} :
    first c rest = l ↔ Applies c rest l :=
  ⟨fun h => h ▸ applies_first c rest, Applies.first_eq⟩

end Lexeme

end LosslessScanner
