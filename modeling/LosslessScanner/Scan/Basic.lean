import LosslessScanner.Scan.Lexeme

/-!
# Scanning a text

The tokens of a text are the token at its front followed by the tokens of what
comes after it. `scanFrom` says this by recursion on the characters: it carries
the number of characters that the last token still covers, skips them, and
takes the next token where they end. `scan_cons` gives the equation one would
rather reason with.

Nothing is dropped on the way: the contents of the tokens put together are the
text (`text_scan`).
-/

namespace LosslessScanner

/-- The tokens of a text whose first `skip` characters have been taken already. -/
def scanFrom : Nat → Text → List Token
  | _, [] => []
  | skip + 1, _ :: rest => scanFrom skip rest
  | 0, c :: rest => Token.first c rest :: scanFrom (Lexeme.first c rest).more rest

/-- The tokens of a text, without a mark at the end. -/
def scan (source : Text) : List Token := scanFrom 0 source

theorem scanFrom_eq_scan_drop (skip : Nat) (t : Text) : scanFrom skip t = scan (t.drop skip) := by
  induction t generalizing skip with
  | nil => simp [scan, scanFrom]
  | cons c t ih =>
    match skip with
    | 0 => rfl
    | skip + 1 => exact ih skip

@[simp] theorem scan_nil : scan [] = [] := rfl

/-- The first token, and then the tokens of the rest. -/
theorem scan_cons (c : Char) (rest : Text) :
    scan (c :: rest) =
      Token.first c rest :: scan (rest.drop (Lexeme.first c rest).more) := by
  rw [← scanFrom_eq_scan_drop]
  rfl

/-- Scanning loses nothing. -/
theorem text_scan (t : Text) : Token.text (scan t) = t := by
  match t with
  | [] => rfl
  | c :: rest =>
    rw [scan_cons, Token.text_cons, text_scan (rest.drop (Lexeme.first c rest).more)]
    exact Token.contents_first_append c rest
termination_by t.length
decreasing_by simp only [List.length_drop, List.length_cons]; omega

/-! ## Tokens with their spans -/

/-- The tokens of a text that starts at a byte offset, with a mark at the end. -/
def scanAt (start : Nat) (source : Text) : List LocatedToken :=
  Token.locate start (scan source ++ [Token.endOfFile])

/-- The tokens of a source with their spans, with a mark at the end. -/
def scanFile (source : Text) : List LocatedToken := scanAt 0 source

/-- The located tokens that a parser reads: no trivia, and no mark at the end. -/
def significantAt (start : Nat) (source : Text) : List LocatedToken :=
  (Token.locate start (scan source)).filter fun t => !t.token.kind.isTrivia

end LosslessScanner
