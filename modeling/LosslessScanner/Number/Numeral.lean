import LosslessScanner.Text.CharClass
import LosslessScanner.Text.Basic

/-!
# Decimal numerals

A numeral is a text that denotes a number: an optional sign, digits, and for the
numbers with a fraction a point and an exponent. Reading one gives its exact
value, as an integer or as a significand and a power of ten, whatever its
length; nothing is rounded and nothing can overflow here.
-/

namespace LosslessScanner

/-- The value of a digit. -/
def digitValue (c : Char) : Nat := c.toNat - '0'.toNat

/-- The number that a sequence of digits denotes; leading zeros do not matter. -/
def ofDigits (t : Text) : Nat := t.foldl (fun n c => 10 * n + digitValue c) 0

/-- Takes an optional sign off a text. -/
def splitSign : Text → Bool × Text
  | '-' :: t => (true, t)
  | '+' :: t => (false, t)
  | t => (false, t)

/-- An integer numeral: an optional sign and at least one digit, and nothing else. -/
def integerNumeral? (t : Text) : Option Int :=
  let (negative, digits) := splitSign t
  if digits ≠ [] ∧ digits.all isDigit then
    some (if negative then -(ofDigits digits : Int) else ofDigits digits)
  else none

/-- A decimal number: `significand · 10 ^ exponent`, with a sign that zero keeps as well. -/
structure Decimal where
  negative : Bool
  significand : Nat
  exponent : Int
  deriving DecidableEq

namespace Decimal

/-- The exponent part of a numeral: empty, or an `e` and an integer numeral. -/
def exponentPart? : Text → Option Int
  | [] => some 0
  | 'e' :: t => integerNumeral? t
  | 'E' :: t => integerNumeral? t
  | _ => none

/-- The fraction digits of a numeral, and what follows them. -/
def splitFraction : Text → Text × Text
  | '.' :: t => (t.takeWhile isDigit, t.dropWhile isDigit)
  | t => ([], t)

/-- A decimal numeral: an optional sign, digits with an optional point among them, before them
or after them, and an optional exponent. There must be a digit on one side of the point. -/
def ofNumeral? (t : Text) : Option Decimal :=
  let (negative, unsigned) := splitSign t
  let whole := unsigned.takeWhile isDigit
  let (fraction, rest) := splitFraction (unsigned.dropWhile isDigit)
  if whole = [] ∧ fraction = [] then none
  else (exponentPart? rest).map fun e =>
    ⟨negative, ofDigits (whole ++ fraction), e - fraction.length⟩

end Decimal

end LosslessScanner
