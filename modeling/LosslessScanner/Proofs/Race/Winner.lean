import LosslessScanner.Proofs.Race.Patterns
import LosslessScanner.Proofs.Race.RuleList
import LosslessScanner.Proofs.WellFormedUtf8

/-!
# Running the race

In front of a text every pattern has a longest match or none. The longest of
these wins, and between two that are as long the priorities decide. The winner
is not always taken as it is: digits and a point are extended by what follows
them once they have won, and a point that nothing extends goes over to the
symbols. If there is no winner the scanner takes one character.

All of this is a relation between a text and what is found, since nothing in it
says how a winner is looked for. That there is one outcome at most is proved
here; that there is one at all needs the patterns and comes later.
-/

namespace LosslessScanner.Race

/-! ## What a winner becomes -/

inductive NumberShape where
  | integer
  | float
  /-- A point without digits, which is a symbol after all. -/
  | lonePoint
  deriving DecidableEq

inductive Shape where
  | whitespace
  | comment
  | word
  | number (n : NumberShape)
  | delimiter
  | symbol
  deriving DecidableEq

def Shape.form : Shape → Form
  | whitespace => .blank
  | comment => .comment
  | word => .word
  | number .integer => .integer
  | number .float => .float
  | number .lonePoint => .symbols
  | delimiter => .delimiter
  | symbol => .symbols

def isDigitByte (b : UInt8) : Bool := 0x30 ≤ b.toNat && b.toNat ≤ 0x39

/-- How many bytes in front of a text are ASCII digits. -/
def digitRun (t : Text) : Nat :=
  ((t.flatMap String.utf8EncodeChar).takeWhile isDigitByte).length

/-- What digits or a point turn out to be, and by how many bytes they are
extended, given what follows them. -/
def number (slice remainder : Text) : NumberShape × Nat :=
  let behindPoint :=
    if slice = ['.'] then some remainder
    else match remainder with
      | '.' :: t => some t
      | _ => none
  let fraction := (behindPoint.map digitRun).getD 0
  if fraction = 0 then (if slice = ['.'] then .lonePoint else .integer, 0)
  else (.float, (if slice = ['.'] then 0 else 1) + fraction)

/-- The shape and the size of a match that has won, given what follows it. -/
def Contender.outcome (k : Contender) (s remainder : Text) : Shape × Nat :=
  match k with
  | blanks => (.whitespace, s.byteSize)
  | comment => (.comment, s.byteSize)
  | word => (.word, s.byteSize)
  | digits | point =>
    (.number (number s remainder).1, s.byteSize + (number s remainder).2)
  | delimiter => (.delimiter, s.byteSize)
  | symbols => (.symbol, s.byteSize)

/-! ## The race -/

/-- The priority of a pattern: two of them declare one, and the others have
what they are given. -/
def Contender.priority (given : Contender → Nat) : Contender → Nat
  | comment | point => 3
  | k => given k

/-- A pattern wins in front of a text: its longest match is longer than that of
any other, or as long and of higher priority. -/
structure Wins (given : Contender → Nat) (t : Text) (k : Contender) (s : Text) : Prop where
  longest : Longest k t s
  beats : ∀ j u, j ≠ k → Longest j t u → u.byteSize < s.byteSize ∨
    (u.byteSize = s.byteSize ∧ j.priority given < k.priority given)

/-- What matching in front of a text gives: the outcome of the winner, or
nothing if no pattern matches. -/
inductive Matched (given : Contender → Nat) (t : Text) : Option (Shape × Nat) → Prop where
  | won {k : Contender} {s : Text} (h : Wins given t k s) :
      Matched given t (some (k.outcome s (t.drop s.length)))
  | failed (h : ∀ (k : Contender) (s : Text), s <+: t → ¬ Matches k.regex s) :
      Matched given t none

/-- What the scanner makes of that. A text that nothing matches gives one
character, unless it is empty. -/
def Found.ofMatch : Text → Option (Shape × Nat) → Found
  | [], _ => .endOfFile
  | c :: _, none => .lexeme .stray c.utf8Size
  | _ :: _, some (shape, size) => .lexeme shape.form size

/-- What is found by the race in front of a text. -/
def Raced (given : Contender → Nat) (t : Text) (o : Found) : Prop :=
  ∃ m, Matched given t m ∧ Found.ofMatch t m = o

/-! ## One outcome at most -/

theorem Wins.unique {given : Contender → Nat} {t : Text} {j k : Contender} {u s : Text}
    (hj : Wins given t j u) (hk : Wins given t k s) : j = k ∧ u = s := by
  have hjk : j = k := by
    refine Decidable.byContradiction fun hne => ?_
    rcases hk.beats j u hne hj.longest with h | ⟨h, hprio⟩ <;>
      rcases hj.beats k s (Ne.symm hne) hk.longest with h' | ⟨h', hprio'⟩ <;> omega
  subst hjk
  refine ⟨rfl, ?_⟩
  have hle := hj.longest.longest s hk.longest.front hk.longest.fits
  rcases List.prefix_or_prefix_of_prefix hj.longest.front hk.longest.front with h | h
  · exact Text.eq_of_prefix_of_byteSize_le h hle
  · exact (Text.eq_of_prefix_of_byteSize_le h
      (hk.longest.longest u hj.longest.front hj.longest.fits)).symm

theorem Matched.unique {given : Contender → Nat} {t : Text} {m n : Option (Shape × Nat)}
    (hm : Matched given t m) (hn : Matched given t n) : m = n := by
  cases hm with
  | won h =>
      cases hn with
      | won h' =>
          obtain ⟨rfl, rfl⟩ := h.unique h'
          rfl
      | failed none => exact absurd h.longest.fits (none _ _ h.longest.front)
  | failed none =>
      cases hn with
      | won h => exact absurd h.longest.fits (none _ _ h.longest.front)
      | failed _ => rfl

theorem Raced.unique {given : Contender → Nat} {t : Text} {o p : Found}
    (ho : Raced given t o) (hp : Raced given t p) : o = p := by
  obtain ⟨m, hm, rfl⟩ := ho
  obtain ⟨n, hn, rfl⟩ := hp
  rw [hm.unique hn]

/-! ## Extending a number -/

theorem isDigitByte_iff {b : UInt8} : isDigitByte b ↔ 48 ≤ b.toNat ∧ b.toNat ≤ 57 := by
  simp [isDigitByte]

theorem isDigitByte_ofNat {n : Nat} (h : n < 256) :
    isDigitByte (.ofNat n) = true ↔ 48 ≤ n ∧ n ≤ 57 := by
  rw [isDigitByte_iff, UInt8.toNat_ofNat_of_lt' h]

theorem encode_of_digit {v : Nat} (h : 48 ≤ v ∧ v ≤ 57) :
    ∃ b, Utf8.encode v = [b] ∧ isDigitByte b :=
  ⟨.ofNat v, if_pos (by omega), (isDigitByte_ofNat (by omega)).2 h⟩

/-- The first byte of a character that is no digit is no digit: it is the code
of the character, or the leading byte of a longer form. -/
theorem encode_of_not_digit {v : Nat} (h : ¬ (48 ≤ v ∧ v ≤ 57)) :
    ∃ b bs, Utf8.encode v = b :: bs ∧ isDigitByte b = false := by
  have not_digit {n : Nat} (hn : n < 256) (hd : ¬ (48 ≤ n ∧ n ≤ 57)) :
      isDigitByte (.ofNat n) = false :=
    Bool.eq_false_iff.2 fun hb => hd ((isDigitByte_ofNat hn).1 hb)
  unfold Utf8.encode
  split
  · exact ⟨_, _, rfl, not_digit (by omega) h⟩
  split
  · exact ⟨_, _, rfl, not_digit (by omega) (by omega)⟩
  split
  · exact ⟨_, _, rfl, not_digit (by omega) (by omega)⟩
  · exact ⟨_, _, rfl, not_digit (by omega) (by omega)⟩

theorem digitRun_eq (t : Text) : digitRun t = Text.run isDigit t := by
  induction t with
  | nil => rfl
  | cons c t ih =>
      rw [digitRun, List.flatMap_cons, Utf8.utf8EncodeChar_eq_encode, Text.run]
      by_cases hc : isDigit c
      · obtain ⟨b, hb, hdigit⟩ := encode_of_digit (isDigit_iff.1 hc)
        rw [if_pos hc, hb, List.singleton_append, List.takeWhile_cons_of_pos hdigit,
          List.length_cons]
        exact congrArg (· + 1) ih
      · obtain ⟨b, bs, hb, hdigit⟩ := encode_of_not_digit (mt isDigit_iff.2 hc)
        rw [if_neg hc, hb, List.cons_append, List.takeWhile_cons_of_neg (by simp [hdigit]),
          List.length_nil]

theorem number_point (t : Text) :
    number ['.'] t = if Text.run isDigit t = 0 then (.lonePoint, 0)
      else (.float, Text.run isDigit t) := by
  simp [number, digitRun_eq]

theorem number_digits {s : Text} (hs : s ≠ ['.']) (t : Text) :
    number s t = if Lexeme.fraction t = 0 then (.integer, 0)
      else (.float, Lexeme.fraction t) := by
  unfold number
  simp only [if_neg hs]
  split
  · next u =>
      simp only [Option.map_some, Option.getD_some, digitRun_eq, Lexeme.fraction]
      by_cases hrun : Text.run isDigit u = 0
      · simp [hrun]
      · simp [hrun, Nat.add_comm]
  · next hpoint =>
      have hzero : Lexeme.fraction t = 0 := by
        unfold Lexeme.fraction
        split
        · next u => exact absurd rfl (hpoint u)
        · rfl
      rw [if_pos hzero]
      rfl

end LosslessScanner.Race
