import LosslessScanner.Pattern.Tree
import LosslessScanner.Text.CharClass

/-!
# What is left to read of a pattern

A pattern is read from left to right, and all that a reader needs to know is
what is left and how much lies in front of it. In the verbose form blanks have
no meaning, and a comment runs from `#` to the end of its line; a reader that
advances by one character then passes over these as well.

Every step leaves less than there was, which is why reading a pattern ends.
-/

namespace LosslessScanner.Pattern

/-- What is left of a pattern. -/
structure Remainder where
  /-- How many characters lie in front. -/
  index : Nat
  text : Text
  /-- Blanks and comments are passed over. -/
  verbose : Bool

namespace Remainder

/-- So many characters further on. -/
def drop (n : Nat) (r : Remainder) : Remainder :=
  { r with index := r.index + n, text := r.text.drop n }

/-- How many characters of blanks and comments a text begins with. -/
def margin (inComment : Bool) : Text → Nat
  | [] => 0
  | c :: t =>
    if inComment then margin (c ≠ '\n') t + 1
    else if isBlank c then margin false t + 1
    else if c = '#' then margin true t + 1
    else 0

/-- Passes over blanks and comments if they have no meaning. -/
def skip (r : Remainder) : Remainder := if r.verbose then r.drop (margin false r.text) else r

/-- Passes over a character. -/
def next (r : Remainder) : Remainder := r.drop 1

/-- Passes over a character and the blanks and comments behind it. -/
def advance (r : Remainder) : Remainder := r.next.skip

theorem length_skip_le (r : Remainder) : r.skip.text.length ≤ r.text.length := by
  unfold skip
  split <;> simp [drop]

theorem length_advance_lt {r : Remainder} {c : Char} {t : Text} (h : r.text = c :: t) :
    r.advance.text.length < r.text.length := by
  have := length_skip_le r.next
  simp only [advance, next, drop, h, List.drop_succ_cons, List.drop_zero,
    List.length_cons] at this ⊢
  omega

/-- The characters in front that belong to a class, without what is passed over between them,
and what is left then. -/
def collect (p : Char → Bool) (r : Remainder) : Text × Remainder :=
  match _h : r.text with
  | [] => ([], r)
  | c :: _ =>
    if p c then
      let (cs, rest) := collect p r.advance
      (c :: cs, rest)
    else ([], r)
termination_by r.text.length
decreasing_by exact length_advance_lt (by assumption)

/-- The stretch of the next character. -/
def here (r : Remainder) : Extent := ⟨r.index, r.index + 1⟩

/-- The stretch from a position up to here. -/
def since (r : Remainder) (start : Nat) : Extent := ⟨start, r.index⟩

/-- The empty stretch here. -/
def point (r : Remainder) : Extent := ⟨r.index, r.index⟩

/-- The character that stands behind the next one and what is passed over there. Of a comment no
more than its sign is passed over. -/
def following (r : Remainder) : Option Char :=
  let t := r.text.drop 1
  if r.verbose then
    match t.dropWhile isBlank with
    | [] => t.head?
    | c :: rest =>
      if c = '#' then (rest.dropWhile isBlank).head? <|> t.head?
      else some c
  else t.head?

end Remainder

/-- A complaint about a stretch. -/
def complain {α : Type} (f : Fault) (e : Extent) : Except Complaint α := .error ⟨f, e, none⟩

end LosslessScanner.Pattern
