import LosslessScanner.Proofs.Bytes
import LosslessScanner.Proofs.Rules

/-!
# Patterns that run a race

A scanner can be described without any order of rules. One declares patterns,
and whichever matches the longest piece of text wins. This file has the seven
patterns as they are declared, with what it is for a pattern to match a text.

All of them are of one make: a first character of some class, and then any
number of characters of another (`Contender.matches_iff`). The longest match of
such a pattern is its first character and the run behind it, and that is all the
race has to know of regular expressions.
-/

namespace LosslessScanner.Race

/-! ## Regular expressions -/

/-- A part of a bracketed class. -/
inductive Item where
  | letters
  | blanks
  | controls
  | char (d : Char)
  | range (first last : Char)

def Item.contains : Item → Char → Bool
  | letters, c => isLetter c
  | blanks, c => isBlank c
  | controls, c => isControl c
  | char d, c => c == d
  | range first last, c => first.toNat ≤ c.toNat && c.toNat ≤ last.toNat

/-- A class of characters: those that some item has, or those that none has. -/
inductive Class where
  | anyOf (items : List Item)
  | noneOf (items : List Item)

def Class.contains : Class → Char → Bool
  | anyOf items, c => items.any (·.contains c)
  | noneOf items, c => !items.any (·.contains c)

inductive Regex where
  | one (k : Class)
  | seq (a b : Regex)
  | star (a : Regex)

def Regex.plus (a : Regex) : Regex := .seq a (.star a)

/-- A regular expression describes a text as a whole. -/
inductive Matches : Regex → Text → Prop where
  | one {k : Class} {c : Char} (h : k.contains c) : Matches (.one k) [c]
  | seq {a b : Regex} {s t : Text} (front : Matches a s) (back : Matches b t) :
      Matches (.seq a b) (s ++ t)
  | stop {a : Regex} : Matches (.star a) []
  | round {a : Regex} {s t : Text} (front : Matches a s) (back : Matches (.star a) t) :
      Matches (.star a) (s ++ t)

theorem matches_one_iff {k : Class} {s : Text} :
    Matches (.one k) s ↔ ∃ c, s = [c] ∧ k.contains c := by
  constructor
  · intro h
    cases h with
    | one h => exact ⟨_, rfl, h⟩
  · rintro ⟨c, rfl, h⟩
    exact .one h

theorem matches_star_iff {k : Class} {s : Text} :
    Matches (.star (.one k)) s ↔ ∀ c ∈ s, k.contains c := by
  constructor
  · intro h
    generalize hr : Regex.star (.one k) = r at h
    induction h with
    | one h => exact Regex.noConfusion hr
    | seq front back => exact Regex.noConfusion hr
    | stop => exact fun c hc => absurd hc List.not_mem_nil
    | round front back _ ih =>
        obtain rfl := Regex.star.inj hr
        obtain ⟨c, rfl, hc⟩ := matches_one_iff.1 front
        intro d hd
        rcases List.mem_cons.1 hd with rfl | hd
        · exact hc
        · exact ih rfl d hd
  · intro h
    induction s with
    | nil => exact .stop
    | cons c s ih =>
        have hc : k.contains c := h c List.mem_cons_self
        exact .round (s := [c]) (.one hc) (ih fun d hd => h d (List.mem_cons_of_mem c hd))

theorem matches_seq_star_iff {j k : Class} {s : Text} :
    Matches (.seq (.one j) (.star (.one k))) s ↔
      ∃ c u, s = c :: u ∧ j.contains c ∧ ∀ d ∈ u, k.contains d := by
  constructor
  · intro h
    cases h with
    | seq front back =>
        obtain ⟨c, rfl, hc⟩ := matches_one_iff.1 front
        exact ⟨c, _, rfl, hc, matches_star_iff.1 back⟩
  · rintro ⟨c, u, rfl, hc, hu⟩
    exact .seq (s := [c]) (.one hc) (matches_star_iff.2 hu)

/-! ## The patterns -/

inductive Contender where
  | blanks
  | comment
  | word
  | digits
  | point
  | delimiter
  | symbols
  deriving DecidableEq

namespace Contender

/-- What is declared for each pattern. -/
def regex : Contender → Regex
  | blanks => .plus (.one (.anyOf [.blanks]))
  | comment =>
    .seq (.one (.anyOf [.char '#'])) (.star (.one (.noneOf [.char '\r', .char '\n'])))
  | word =>
    .seq (.one (.anyOf [.letters])) (.star (.one (.anyOf [.letters, .range '0' '9'])))
  | digits => .plus (.one (.anyOf [.range '0' '9']))
  | point => .one (.anyOf [.char '.'])
  | delimiter => .one (.anyOf [.char '(', .char ')', .char ',', .char ';'])
  | symbols => .plus (.one (.noneOf [.letters, .range '0' '9', .blanks, .controls,
      .char '(', .char ')', .char ',', .char ';']))

def head : Contender → Char → Bool
  | blanks => isBlank
  | comment => (· == '#')
  | word => isLetter
  | digits => isDigit
  | point => (· == '.')
  | delimiter => isDelimiter
  | symbols => isSymbol

def tail : Contender → Char → Bool
  | blanks => isBlank
  | comment => fun c => !isLineEnd c
  | word => isWordTail
  | digits => isDigit
  | point | delimiter => fun _ => false
  | symbols => isSymbol

end Contender

theorem contains_digits (c : Char) :
    (Item.range '0' '9').contains c = isDigit c := by
  rw [Bool.eq_iff_iff, isDigit_iff]
  simp [Item.contains]

theorem contains_symbols (c : Char) :
    (Class.noneOf [.letters, .range '0' '9', .blanks, .controls, .char '(', .char ')',
      .char ',', .char ';']).contains c = isSymbol c := by
  simp only [Class.contains, List.any_cons, List.any_nil, contains_digits, Bool.or_false]
  simp only [Item.contains, isSymbol, isDelimiter, Bool.or_assoc]

/-- Every pattern describes a first character of one class and then characters
of another. -/
theorem Contender.matches_iff {k : Contender} {s : Text} :
    Matches k.regex s ↔ ∃ c u, s = c :: u ∧ k.head c ∧ ∀ d ∈ u, k.tail d := by
  have single {p : Char → Bool} : (∃ c, s = [c] ∧ p c) ↔
      ∃ c u, s = c :: u ∧ p c ∧ ∀ d ∈ u, (fun _ : Char => false) d = true := by
    constructor
    · rintro ⟨c, rfl, hc⟩
      exact ⟨c, [], rfl, hc, fun d hd => absurd hd List.not_mem_nil⟩
    · rintro ⟨c, u, rfl, hc, hu⟩
      obtain rfl := List.eq_nil_iff_forall_not_mem.2 fun d hd => Bool.noConfusion (hu d hd)
      exact ⟨c, rfl, hc⟩
  cases k with
  | blanks =>
      refine matches_seq_star_iff.trans ?_
      simp [Class.contains, Item.contains, head, tail]
  | comment =>
      refine matches_seq_star_iff.trans ?_
      simp [Class.contains, Item.contains, head, tail, isLineEnd, and_comm]
  | word =>
      refine matches_seq_star_iff.trans ?_
      simp only [Class.contains, List.any_cons, List.any_nil, contains_digits, Bool.or_false]
      rfl
  | digits =>
      refine matches_seq_star_iff.trans ?_
      simp only [Class.contains, List.any_cons, List.any_nil, contains_digits, Bool.or_false]
      rfl
  | point =>
      refine matches_one_iff.trans (Iff.trans ?_ single)
      simp [Class.contains, Item.contains, head]
  | delimiter =>
      refine matches_one_iff.trans (Iff.trans ?_ single)
      simp [Class.contains, Item.contains, head, isDelimiter, or_assoc]
  | symbols =>
      refine matches_seq_star_iff.trans ?_
      simp only [contains_symbols]
      rfl

/-! ## The longest match -/

/-- The longest piece in front of a text that a pattern describes. Length is
counted in bytes. -/
structure Longest (k : Contender) (t s : Text) : Prop where
  front : s <+: t
  fits : Matches k.regex s
  longest : ∀ u : Text, u <+: t → Matches k.regex u → u.byteSize ≤ s.byteSize

/-- The first character, and what the pattern takes behind it. -/
def Contender.stretch (k : Contender) (c : Char) (rest : Text) : Text :=
  c :: rest.take (Text.run k.tail rest)

theorem matches_stretch {k : Contender} {c : Char} (hc : k.head c) (rest : Text) :
    Matches k.regex (k.stretch c rest) :=
  Contender.matches_iff.2 ⟨c, _, rfl, hc, fun _ hd => Text.mem_take_run hd⟩

theorem isPrefix_stretch (k : Contender) (c : Char) (rest : Text) :
    k.stretch c rest <+: c :: rest :=
  List.cons_prefix_cons.2 ⟨rfl, List.take_prefix _ _⟩

/-- What a pattern describes in front of a text reaches no further than the stretch. -/
theorem prefix_stretch {k : Contender} {c : Char} {rest u : Text} (hu : u <+: c :: rest)
    (fits : Matches k.regex u) : k.head c ∧ u <+: k.stretch c rest := by
  obtain ⟨d, v, rfl, hd, hv⟩ := Contender.matches_iff.1 fits
  obtain ⟨rfl, hwithin⟩ := List.cons_prefix_cons.1 hu
  refine ⟨hd, List.cons_prefix_cons.2 ⟨rfl, ?_⟩⟩
  exact List.prefix_take_iff.2 ⟨hwithin, Text.length_le_run hwithin hv⟩

theorem longest_iff {k : Contender} {c : Char} {rest s : Text} :
    Longest k (c :: rest) s ↔ k.head c ∧ s = k.stretch c rest := by
  constructor
  · intro h
    obtain ⟨hc, hs⟩ := prefix_stretch h.front h.fits
    have hsize := h.longest _ (isPrefix_stretch k c rest) (matches_stretch hc rest)
    exact ⟨hc, Text.eq_of_prefix_of_byteSize_le hs hsize⟩
  · rintro ⟨hc, rfl⟩
    refine ⟨isPrefix_stretch k c rest, matches_stretch hc rest, fun u hu fits => ?_⟩
    exact Text.byteSize_le_of_prefix (prefix_stretch hu fits).2

theorem not_matches_nil {k : Contender} : ¬ Matches k.regex [] := by
  intro h
  obtain ⟨c, u, hnil, -, -⟩ := Contender.matches_iff.1 h
  exact List.cons_ne_nil c u hnil.symm

end LosslessScanner.Race
