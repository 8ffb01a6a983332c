import LosslessScanner.Text.CharClass
import LosslessScanner.Token.Basic
import LosslessScanner.Token.Vocabulary

/-!
# The lexeme at the front of a text

One lexeme is taken off the front of a text at a time. Which one is settled by
an ordered list of rules, of which the first that applies to the first
character decides: blanks, a comment, a word, a number, a delimiter, a run of
symbols, and a single character that nothing else wants. The form found by a
rule is then turned into a kind by looking up the two tables.

A rule answers with the form and with the number of characters *after the
first* that belong to the lexeme. Put this way the first character is always
taken, whatever the rules say, and scanning cannot stand still.

Only numbers look past their own end: digits take a point with them exactly if
a digit follows it. A point that is not followed by a digit is an ordinary
symbol.
-/

namespace LosslessScanner

/-- What a lexeme looks like, before any table is looked up. -/
inductive Form where
  | blank
  | comment
  | word
  | integer
  | float
  | delimiter
  | symbols
  | stray
  deriving DecidableEq

/-- The kind of a lexeme of a given form. -/
def Form.kind : Form → Text → Kind
  | blank, _ => .whitespace
  | comment, _ => .comment
  | word, t => Vocabulary.wordKind t
  | integer, _ => .integer
  | float, _ => .float64
  | delimiter, t => Vocabulary.symbolKind t
  | symbols, t => Vocabulary.symbolKind t
  | stray, _ => .undefined

/-- A form, and how many characters after the first have it. -/
structure Lexeme where
  form : Form
  more : Nat
  deriving DecidableEq

namespace Lexeme

/-- The length of the fraction at the front of a text: a point and the digits after it. A point
without digits is no fraction. -/
def fraction : Text → Nat
  | '.' :: t => if Text.run isDigit t = 0 then 0 else Text.run isDigit t + 1
  | _ => 0

/-- The lexeme of a text that begins with the digit before `rest`. -/
def number (rest : Text) : Lexeme :=
  let whole := Text.run isDigit rest
  match fraction (rest.drop whole) with
  | 0 => ⟨.integer, whole⟩
  | n => ⟨.float, whole + n⟩

/-- The lexeme that the text `c :: rest` begins with: the first rule that applies decides. -/
def first (c : Char) (rest : Text) : Lexeme :=
  if isBlank c then ⟨.blank, Text.run isBlank rest⟩
  else if c = '#' then ⟨.comment, Text.run (fun d => !isLineEnd d) rest⟩
  else if isLetter c then ⟨.word, Text.run isWordTail rest⟩
  else if isDigit c then number rest
  else if c = '.' ∧ Text.run isDigit rest ≠ 0 then ⟨.float, Text.run isDigit rest⟩
  else if isDelimiter c then ⟨.delimiter, 0⟩
  else if isSymbol c then ⟨.symbols, Text.run isSymbol rest⟩
  else ⟨.stray, 0⟩

end Lexeme

/-- The token that the text `c :: rest` begins with. -/
def Token.first (c : Char) (rest : Text) : Token :=
  let lexeme := Lexeme.first c rest
  let contents := c :: rest.take lexeme.more
  ⟨lexeme.form.kind contents, contents⟩

namespace Token

/-- The first token and what comes after it are the text. -/
theorem contents_first_append (c : Char) (rest : Text) :
    (first c rest).contents ++ rest.drop (Lexeme.first c rest).more = c :: rest := by
  simp [first]

/-- The text without as many characters as the first token has is what comes after it. -/
theorem drop_length_contents_first (c : Char) (rest : Text) :
    (c :: rest).drop (first c rest).contents.length =
      rest.drop (Lexeme.first c rest).more := by
  conv => lhs; rw [← contents_first_append c rest]
  exact List.drop_left

end Token

end LosslessScanner
