import LosslessScanner.Text.Alphabetic

/-!
# The classes of characters

A scanner looks at a character only through its class. There are letters,
digits, blanks, controls, delimiters, and the rest, which are the characters
that operators are made of. Letters and blanks are those of Unicode 16; digits
are the ten of ASCII.

The classes are not quite disjoint: the line feed and its like are blanks as
well as controls. Where that matters the blank wins, and `isStray` says what is
left of the controls.
-/

namespace LosslessScanner

/-- The Unicode property `Alphabetic`. -/
def isLetter (c : Char) : Bool := c.isAlpha || Text.alphabetic.contains c

/-- The digits of ASCII; no other script's digits count. -/
def isDigit (c : Char) : Bool := c.isDigit

/-- The Unicode property `White_Space`. -/
def isBlank (c : Char) : Bool :=
  let n := c.toNat
  (0x09 ≤ n && n ≤ 0x0d) || n == 0x20 || n == 0x85 || n == 0xa0 || n == 0x1680
    || (0x2000 ≤ n && n ≤ 0x200a) || n == 0x2028 || n == 0x2029 || n == 0x202f
    || n == 0x205f || n == 0x3000

/-- The general category `Cc`: the two blocks of control codes. -/
def isControl (c : Char) : Bool := c.toNat < 0x20 || (0x7f ≤ c.toNat && c.toNat < 0xa0)

/-- The four characters that always stand alone. -/
def isDelimiter (c : Char) : Bool := c == '(' || c == ')' || c == ',' || c == ';'

/-- What runs of symbols are made of: everything that no other class claims. -/
def isSymbol (c : Char) : Bool :=
  !(isLetter c || isDigit c || isBlank c || isControl c || isDelimiter c)

/-- What may follow the first letter of a word. -/
def isWordTail (c : Char) : Bool := isLetter c || isDigit c

/-- Where a comment stops. -/
def isLineEnd (c : Char) : Bool := c == '\n' || c == '\r'

/-- A control code that is no blank has no place in a program. -/
def isStray (c : Char) : Bool := isControl c && !isBlank c

end LosslessScanner
