import LosslessScanner.Token.Kind

/-!
# The fixed vocabulary

Two tables name the texts that have a kind of their own: the keywords among the
words, the punctuation among the runs of symbols and the delimiters. A lookup
is exact. A word that is no keyword is an identifier, and a run of symbols that
is no punctuation is an operator, so neither lookup can fail.
-/

namespace LosslessScanner.Vocabulary

/-- The keywords, in the order in which they are listed. -/
def keywords : List (Text × Kind) :=
  [("def".toList, .defKeyword), ("var".toList, .varKeyword), ("class".toList, .classKeyword)]

/-- The punctuation, in the order in which it is listed. -/
def punctuation : List (Text × Kind) :=
  [([';'], .semicolon), (['='], .eq), ([','], .comma), (['.'], .dot),
    (['('], .leftParen), ([')'], .rightParen)]

/-- The kind of a word. -/
def wordKind (t : Text) : Kind := (keywords.lookup t).getD .identifier

/-- The kind of a run of symbols or a delimiter. -/
def symbolKind (t : Text) : Kind := (punctuation.lookup t).getD .operator

/-! ## The tables as text -/

/-- One row: the text in a column of six, and its kind. -/
def row (entry : Text × Kind) : Text :=
  [' ', ' '] ++ entry.1.padRight 6 ++ [' '] ++ entry.2.name

/-- Both tables, and what becomes of a run of symbols that is in neither. -/
def describe : Text :=
  Text.joinLines
    (["keywords:".toList] ++ keywords.map row ++ ["punctuation:".toList]
      ++ punctuation.map row ++ ["other symbol runs: ".toList ++ Kind.operator.name])

end LosslessScanner.Vocabulary
