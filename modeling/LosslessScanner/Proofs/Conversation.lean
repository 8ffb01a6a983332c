import Mathlib.Data.List.TakeWhile
import LosslessScanner.Proofs.Lines
import LosslessScanner.Proofs.Outcome

/-!
# A conversation with the line reader

The reader carries nothing from one line to the next. What it writes is
therefore the same for a line wherever it stands: the prompt, and a response
that depends on this line only. Input that is put in front of other input adds
its responses in front of the output, and changes nothing behind them, as long
as none of its lines ends the session.

A session ends in one of three ways: with a line that asks for it, with bytes
that are no text, or with the input. The first two do not look at what follows.
Lines are said here by splitting bytes at line feeds, while the reader cuts
behind them and takes the line end off a chunk after it has been decoded. That
these are the same lines rests on a line feed being a character by itself: it
can be taken off well-formed bytes, and off no others (`wellFormed_of_lineFeed`).
-/

namespace LosslessScanner

namespace Repl

/-! ## One line -/

/-- A line asks for the end of the session. -/
def Quits (line : Text) : Prop :=
  Text.trim isBlank line = ":q".toList ∨ Text.trim isBlank line = ":quit".toList

instance (line : Text) : Decidable (Quits line) := inferInstanceAs (Decidable (_ ∨ _))

/-- The lines of bytes that end with a line feed, each without its line feed. -/
def pieces (bytes : List UInt8) : List (List UInt8) := (bytes.splitOn 10).dropLast

/-- The first line, without its line feed. -/
def firstLine (bytes : List UInt8) : List UInt8 := bytes.takeWhile (· ≠ 10)

theorem pieces_append {p : List UInt8} (h : 10 ∉ p) (a : List UInt8) :
    pieces (p ++ 10 :: a) = p :: pieces a := by
  rw [pieces, List.splitOn_append_cons_self_of_not_mem h,
    List.dropLast_cons_of_ne_nil (List.splitOn_ne_nil 10 a), pieces]

/-- Input whose lines are all ended, are all text, and do not end the session. -/
structure Answered (a : List UInt8) : Prop where
  ended : a = [] ∨ a.getLast? = some 10
  wellFormed : ∀ line ∈ pieces a, Utf8.WellFormed line
  stays : ∀ line ∈ pieces a, ∀ t, text? line = some t → ¬ Quits t

theorem Answered.of_append {p a : List UInt8} (hp : 10 ∉ p) (h : Answered (p ++ 10 :: a)) :
    (∃ t : Text, t.flatMap String.utf8EncodeChar = p ∧ ¬ Quits t) ∧ Answered a := by
  obtain ⟨ended, wellFormed, stays⟩ := h
  rw [pieces_append hp, List.forall_mem_cons] at wellFormed stays
  obtain ⟨t, rfl⟩ := wellFormed.1.exists_text
  refine ⟨⟨t, rfl, stays.1 t (text?_encode t)⟩, ?_, wellFormed.2, stays.2⟩
  cases a with
  | nil => exact .inl rfl
  | cons b a =>
      have hlast := ended.resolve_left (by simp)
      exact .inr (by simpa using hlast)

/-- To prove something of all input that is answered, line by line. -/
theorem Answered.induction {motive : List UInt8 → Prop} (nil : motive [])
    (line : ∀ t : Text, ∀ a, 10 ∉ t.flatMap String.utf8EncodeChar → ¬ Quits t → motive a →
      motive (t.flatMap String.utf8EncodeChar ++ 10 :: a))
    {a : List UInt8} (h : Answered a) : motive a := by
  by_cases hmem : 10 ∈ a
  · obtain ⟨p, r, ha, hp⟩ := List.eq_append_cons_of_mem hmem
    rw [ha] at h ⊢
    obtain ⟨⟨t, rfl, hquits⟩, hr⟩ := h.of_append hp
    exact line t r hp hquits (Answered.induction nil line hr)
  · rcases h.ended with rfl | hlast
    · exact nil
    · exact absurd (List.mem_of_getLast? hlast) hmem
termination_by a.length
decreasing_by rw [ha, List.length_append, List.length_cons]; omega

end Repl

/-! ## Runs -/

namespace Program

open Repl

variable (console : Console)

end Program

end LosslessScanner
