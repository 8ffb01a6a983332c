import LosslessScanner.Text.Basic

/-!
# Kinds of tokens

The kinds are the vocabulary that a parser reads. They fall into groups: trivia,
which a parser skips, keywords, punctuation, literals, and the rest. No kind is
in two groups.
-/

namespace LosslessScanner

/-- What a token is. -/
inductive Kind where
  /-- A character that has no place in the language. -/
  | undefined
  /-- The mark after the last token; its contents are empty. -/
  | endOfFile
  | whitespace
  /-- From a `#` up to the end of the line. -/
  | comment
  | identifier
  /-- A run of symbols that is no known punctuation. -/
  | operator
  | integer
  /-- A number with a fraction, such as `3.14` or `.5`. -/
  | float64
  | defKeyword
  | varKeyword
  | classKeyword
  | semicolon
  | eq
  | comma
  | dot
  | leftParen
  | rightParen
  deriving DecidableEq

namespace Kind

/-- The name under which a kind is printed. -/
def name : Kind → Text
  | undefined => "Undefined".toList
  | endOfFile => "EndOfFile".toList
  | whitespace => "Whitespace".toList
  | comment => "Comment".toList
  | identifier => "Identifier".toList
  | operator => "Operator".toList
  | integer => "Integer".toList
  | float64 => "Float64".toList
  | defKeyword => "DefKeyword".toList
  | varKeyword => "VarKeyword".toList
  | classKeyword => "ClassKeyword".toList
  | semicolon => "Semicolon".toList
  | eq => "Eq".toList
  | comma => "Comma".toList
  | dot => "Dot".toList
  | leftParen => "LeftParen".toList
  | rightParen => "RightParen".toList

/-- Every kind once. -/
def all : List Kind :=
  [undefined, endOfFile, whitespace, comment, identifier, operator, integer, float64,
    defKeyword, varKeyword, classKeyword, semicolon, eq, comma, dot, leftParen, rightParen]

/-- The kind that has a given name. -/
def ofName? (t : Text) : Option Kind := all.find? (·.name = t)

theorem ofName?_name (k : Kind) : ofName? k.name = some k := by cases k <;> decide

/-- A name is made of letters and digits. -/
theorem not_mem_name {c : Char} (h : c.isAlphanum = false) (k : Kind) : c ∉ k.name := by
  have hall : k.name.all Char.isAlphanum = true := by cases k <;> decide
  intro hc
  exact absurd (List.all_eq_true.1 hall c hc) (Bool.eq_false_iff.1 h)

/-- Two kinds never share a name. -/
theorem name_injective {k l : Kind} (h : k.name = l.name) : k = l := by
  have hk := ofName?_name k
  rw [h, ofName?_name l] at hk
  exact (Option.some.inj hk).symm

/-! ## Groups -/

/-- Text between the tokens that a parser reads. -/
def isTrivia : Kind → Bool
  | whitespace | comment => true
  | _ => false

def isKeyword : Kind → Bool
  | defKeyword | varKeyword | classKeyword => true
  | _ => false

def isPunctuation : Kind → Bool
  | semicolon | eq | comma | dot | leftParen | rightParen => true
  | _ => false

/-- Tokens that stand for a number. -/
def isLiteral : Kind → Bool
  | integer | float64 => true
  | _ => false

end Kind

end LosslessScanner
