import LosslessScanner.Problem
import LosslessScanner.Number.Style

/-!
# The values of literals

A scanner tells numbers by their looks only; here a token gets its value. An
integer has to fit into 32 bits with a sign, and a number with a fraction has to
round to a finite double. The numerals accepted are wider than what the scanner
makes tokens of: a token made by hand may have a sign or an exponent.
-/

namespace LosslessScanner

/-- The value of a literal. -/
inductive Literal where
  | int32 (value : Int32)
  | float64 (value : Binary64)
  deriving DecidableEq

namespace Literal

/-- Doubles as they are shown to people: in place from `0.0001` up to sixteen digits before the
point, a tie going up. -/
def displayStyle : FloatStyle := ⟨-4, 15, false, .up⟩

/-- Doubles as JSON numbers: in place from `0.00001`, with a signed exponent otherwise, a tie
going to the even digit. -/
def jsonStyle : FloatStyle := ⟨-5, 15, true, .even⟩

/-- An integer in decimal digits. -/
def writeInt (n : Int) : Text :=
  (if n < 0 then ['-'] else []) ++ Text.ofNat n.natAbs

/-- A value for people to read. -/
def display : Literal → Text
  | int32 n => writeInt n.toInt
  | float64 x => displayStyle.write x

/-- The number in the JSON form of a value. -/
def jsonNumber : Literal → Text
  | int32 n => writeInt n.toInt
  | float64 x => jsonStyle.write x

/-- The type of a value, which is the field name of its JSON form. -/
def typeName : Literal → Text
  | int32 _ => "Int32".toList
  | float64 _ => "Float64".toList

/-- A value as a JSON object with one field. -/
def json (v : Literal) : Text :=
  ['\x7b'] ++ Text.jsonString v.typeName ++ [':'] ++ v.jsonNumber ++ ['\x7d']

/-- A number in so many hexadecimal digits. -/
def hexDigits (count n : Nat) : Text :=
  let ds := Text.hex n
  List.replicate (count - ds.length) '0' ++ ds

/-- The bits of a value: 32 in two's complement, or the 64 of the double. -/
def bits : Literal → Text
  | int32 n => hexDigits 8 n.toUInt32.toNat
  | float64 x => hexDigits 16 x.bits

end Literal

namespace Token

/-- The value of an integer token. -/
def int32? (t : Token) : Except LexicalError Int32 :=
  if t.kind = .integer then
    match integerNumeral? t.contents with
    | some n =>
      if Int32.minValue.toInt ≤ n ∧ n ≤ Int32.maxValue.toInt then .ok (Int32.ofInt n)
      else .error ⟨.invalidInteger t.contents, Span.none⟩
    | none => .error ⟨.invalidInteger t.contents, Span.none⟩
  else .error ⟨.notALiteral t.kind, Span.none⟩

/-- The value of a token for a number with a fraction. -/
def float64? (t : Token) : Except LexicalError Binary64 :=
  if t.kind = .float64 then
    match (Decimal.ofNumeral? t.contents).bind Binary64.ofDecimal? with
    | some x => .ok x
    | none => .error ⟨.invalidFloat t.contents, Span.none⟩
  else .error ⟨.notALiteral t.kind, Span.none⟩

/-- The value of a token that is a literal. -/
def literal? (t : Token) : Except LexicalError Literal :=
  match t.kind with
  | .integer => t.int32?.map .int32
  | .float64 => t.float64?.map .float64
  | kind => .error ⟨.notALiteral kind, Span.none⟩

end Token

/-- The value of a token in its place: an error is found where the token stands. -/
def LocatedToken.literal? (t : LocatedToken) : Except LexicalError Literal :=
  t.token.literal?.mapError (·.moveTo t.span)

end LosslessScanner
