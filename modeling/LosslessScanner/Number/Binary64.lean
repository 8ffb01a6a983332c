import LosslessScanner.Number.Numeral

/-!
# Double-precision numbers

A finite double is a sign and a magnitude. The magnitude is the 63 bits below
the sign read as a number, so that magnitudes are in the order of the values
they stand for and neighbours differ by one; those from `infinite` on are not
finite. Values are counted in units of `2 ^ -1074`, the least positive double,
of which every finite double is a whole number (`units`).

To round a positive fraction of units is to cut it down to 53 significant bits
by one division, half to even. A carry out of the significand runs over into the
exponent bits and gives the right magnitude there, and numbers too small for 53
bits are rounded to whole units by the same line.
-/

namespace LosslessScanner

/-- The natural number nearest to `p / q`; halfway between two, the even one. -/
def roundHalfEven (p q : Nat) : Nat :=
  let n := p / q
  let r := p % q
  if 2 * r < q then n
  else if q < 2 * r then n + 1
  else if n % 2 = 0 then n
  else n + 1

/-- The rounded number is at most half away from the fraction. -/
theorem roundHalfEven_near (p : Nat) {q : Nat} (hq : 0 < q) :
    2 * (roundHalfEven p q * q) ≤ 2 * p + q ∧ 2 * p ≤ 2 * (roundHalfEven p q * q) + q := by
  have hp : p / q * q + p % q = p := Nat.div_add_mod' p q
  have hr : p % q < q := Nat.mod_lt p hq
  have hs : (p / q + 1) * q = p / q * q + q := Nat.succ_mul _ _
  simp only [roundHalfEven]
  split
  · omega
  · split
    · omega
    · split <;> omega

-- Powers are those of the core library, whatever else is in scope.
attribute [local instance (high)] instPowNat

/-- The bits of a significand but its first. -/
def Binary64.fractionBits : Nat := 52

/-- How many binary places behind the point the least positive double has. -/
def Binary64.leastPlace : Nat := 1074

/-- The least magnitude that is not finite. -/
def Binary64.infinite : Nat := 0x7ff * 2 ^ fractionBits

/-- A finite double-precision number. -/
structure Binary64 where
  negative : Bool
  /-- The bits below the sign: eleven of the exponent and 52 of the significand. -/
  magnitude : Nat
  finite : magnitude < Binary64.infinite
  deriving DecidableEq

namespace Binary64

/-- The value of a magnitude, in units of `2 ^ -1074`. -/
def units (magnitude : Nat) : Nat :=
  if magnitude < 2 ^ fractionBits then magnitude
  else
    (2 ^ fractionBits + magnitude % 2 ^ fractionBits) * 2 ^ (magnitude / 2 ^ fractionBits - 1)

/-- The magnitude nearest to `p / q` units; halfway between two, the even one. -/
def nearest (p q : Nat) : Nat :=
  let excess := (p / q).log2 - fractionBits
  excess * 2 ^ fractionBits + roundHalfEven p (q * 2 ^ excess)

/-- The magnitude of a double if it is finite. -/
def ofMagnitude? (negative : Bool) (magnitude : Nat) : Option Binary64 :=
  if h : magnitude < infinite then some ⟨negative, magnitude, h⟩ else none

/-- The number of decimal digits. -/
def digitCount (n : Nat) : Nat := (Nat.toDigits 10 n).length

/-- The double nearest to a decimal number; none if that is infinite. A number of `n` digits
lies between the powers of ten `n - 1` and `n`, so that the exponent tells numbers that are far
too large or too small without forming any power. -/
def ofDecimal? (d : Decimal) : Option Binary64 :=
  let top := d.exponent + digitCount d.significand
  if d.significand = 0 ∨ top < -330 then ofMagnitude? d.negative 0
  else if 310 < top then none
  else
    ofMagnitude? d.negative
      (nearest (d.significand * 10 ^ d.exponent.toNat * 2 ^ leastPlace)
        (10 ^ (-d.exponent).toNat))

/-- The 64 bits as a number. -/
def bits (x : Binary64) : Nat := (if x.negative then 2 ^ (fractionBits + 11) else 0) + x.magnitude

end Binary64

end LosslessScanner
