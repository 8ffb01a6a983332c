import LosslessScanner.Number.Shortest

/-!
# Writing doubles

A double is written with the digits of its shortest decimal, either in place, as
`0.0001` or `1500.0`, or in scientific form, as `1e-5` or `1.5e300`. In place it
always has a point with a digit on both sides; in scientific form it has a point
only if there is a second digit. Where the two forms part, how the exponent is
signed, and which way a tie between two shortest decimals goes is a matter of
style.
-/

namespace LosslessScanner

/-- The decisions that a form of output takes about doubles. -/
structure FloatStyle where
  /-- The least exponent of ten that is written in place. -/
  least : Int
  /-- The greatest exponent of ten that is written in place. -/
  greatest : Int
  /-- A positive exponent has a sign. -/
  plus : Bool
  /-- Which of two equally near decimals is written. -/
  tie : Tie

namespace FloatStyle

/-- The digits `ds` with the point after the digit of weight one, given the exponent of ten of
the first digit. -/
def inPlace (ds : Text) (e : Int) : Text :=
  if e < 0 then ['0', '.'] ++ List.replicate (-e - 1).toNat '0' ++ ds
  else
    let whole := e.toNat + 1
    if ds.length ≤ whole then ds ++ List.replicate (whole - ds.length) '0' ++ ['.', '0']
    else ds.take whole ++ ['.'] ++ ds.drop whole

/-- The digits `ds` with the point after the first, and the exponent of ten. -/
def scientific (plus : Bool) (ds : Text) (e : Int) : Text :=
  let sign := if e < 0 then ['-'] else if plus then ['+'] else []
  let significand := match ds with
    | d :: d' :: rest => d :: '.' :: d' :: rest
    | ds => ds
  significand ++ ['e'] ++ sign ++ Text.ofNat e.natAbs

/-- A decimal in a style. -/
def writeDigits (s : FloatStyle) (d : Digits) : Text :=
  let ds := Text.ofNat d.significand
  let e := d.exponent + ds.length - 1
  if s.least ≤ e ∧ e ≤ s.greatest then inPlace ds e else scientific s.plus ds e

/-- A double in a style. -/
def write (s : FloatStyle) (x : Binary64) : Text :=
  (if x.negative then ['-'] else [])
    ++ if x.magnitude = 0 then ['0', '.', '0']
       else s.writeDigits (Binary64.shortest s.tie x.magnitude)

end FloatStyle

end LosslessScanner
