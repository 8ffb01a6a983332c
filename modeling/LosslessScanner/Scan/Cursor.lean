import LosslessScanner.Scan.Basic

/-!
# Reading a source step by step

A cursor is a place in a source. It is kept as the two parts that the source
falls into there, the text already delivered and the remainder, so that it
cannot stand inside a character and the source never changes under it
(`source_read`). Its position in bytes is the size of the first part.

Reading delivers the first token of the remainder and moves past it. At the end
of the source it delivers the mark for that, as often as it is asked. Everything
else only looks: peeking, and the three questions about all that is still to
come, which are answered from the remainder and leave the cursor alone.
-/

namespace LosslessScanner

/-- A place in a source. -/
structure Cursor where
  delivered : Text
  remainder : Text
  deriving DecidableEq

namespace Cursor

/-- The cursor in front of a source. -/
def start (source : Text) : Cursor := ⟨[], source⟩

/-- The whole source. -/
def source (c : Cursor) : Text := c.delivered ++ c.remainder

/-- How many bytes of the source have been delivered. -/
def position (c : Cursor) : Nat := c.delivered.byteSize

/-- Nothing is left to deliver. -/
def atEnd (c : Cursor) : Bool := c.remainder.isEmpty

/-- The next token, or the mark at the end of the source. -/
def peek (c : Cursor) : Token :=
  match c.remainder with
  | [] => Token.endOfFile
  | d :: rest => Token.first d rest

/-- The cursor after a token of the remainder. -/
def advance (c : Cursor) (t : Token) : Cursor :=
  ⟨c.delivered ++ t.contents, c.remainder.drop t.contents.length⟩

/-- Delivers the next token. -/
def read (c : Cursor) : Token × Cursor := (c.peek, c.advance c.peek)

/-- Delivers the next token with its span, and nothing at the end of the source. -/
def nextToken (c : Cursor) : Option LocatedToken × Cursor :=
  let (t, after) := c.read
  (if t.kind = .endOfFile then none else some ⟨t, ⟨c.position, after.position⟩⟩, after)

/-- A round of iteration. -/
def next (c : Cursor) : Option LocatedToken × Cursor := c.nextToken

/-! ## What is still to come -/

/-- All tokens to come with their spans in the source, with the mark at the end. -/
def tokens (c : Cursor) : List LocatedToken := scanAt c.position c.remainder

/-- Those of them that a parser reads. -/
def significant (c : Cursor) : List LocatedToken := significantAt c.position c.remainder

/-- How many tokens `next` will still deliver. -/
def count (c : Cursor) : Nat := (scan c.remainder).length

/-- Bounds on `count` that need no scanning: a token has at least one byte, and there is one
unless the source is exhausted. -/
def sizeHint (c : Cursor) : Nat × Nat :=
  let left := c.remainder.byteSize
  (if left = 0 then 0 else 1, left)

/-! ## Any sequence of steps -/

/-- What can be asked of a cursor. -/
inductive Operation where
  | peek
  | read
  | nextToken
  | next
  | remainder
  | source
  | atEnd
  | sizeHint
  | tokens
  | significant
  | count
  deriving DecidableEq

/-- What it answers. -/
inductive Answer where
  | token (t : Token)
  | located (t : Option LocatedToken)
  | text (t : Text)
  | flag (b : Bool)
  | bounds (lower upper : Nat)
  | list (ts : List LocatedToken)
  | number (n : Nat)
  deriving DecidableEq

/-- One step: the answer, and the cursor after it. -/
def step (c : Cursor) : Operation → Answer × Cursor
  | .peek => (.token c.peek, c)
  | .read => (.token c.read.1, c.read.2)
  | .nextToken => (.located c.nextToken.1, c.nextToken.2)
  | .next => (.located c.next.1, c.next.2)
  | .remainder => (.text c.remainder, c)
  | .source => (.text c.source, c)
  | .atEnd => (.flag c.atEnd, c)
  | .sizeHint => (.bounds c.sizeHint.1 c.sizeHint.2, c)
  | .tokens => (.list c.tokens, c)
  | .significant => (.list c.significant, c)
  | .count => (.number c.count, c)

/-- The answers to a sequence of operations, each with the cursor after it. -/
def run (c : Cursor) : List Operation → List (Answer × Cursor)
  | [] => []
  | op :: ops => c.step op :: run (c.step op).2 ops

/-! ## Reading keeps the source -/

/-- The next token and what comes after it are the remainder. -/
theorem contents_peek_append (c : Cursor) :
    c.peek.contents ++ c.remainder.drop c.peek.contents.length = c.remainder := by
  obtain ⟨delivered, remainder⟩ := c
  match remainder with
  | [] => rfl
  | d :: rest =>
    simp only [peek, Token.drop_length_contents_first]
    exact Token.contents_first_append d rest

/-- Reading does not change the source. -/
theorem source_read (c : Cursor) : c.read.2.source = c.source := by
  simp only [read, advance, source, List.append_assoc, contents_peek_append]

/-- Reading moves past the token that it delivers. -/
theorem position_read (c : Cursor) : c.read.2.position = c.position + c.peek.size := by
  simp [read, advance, position, Token.size]

end Cursor

end LosslessScanner
