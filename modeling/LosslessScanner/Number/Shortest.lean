import LosslessScanner.Number.Binary64

/-!
# The shortest decimal that reads back

Of the decimals that round to a given double, one with the fewest digits is
written, and of those the nearest. The decimals of `n` digits around a value lie
on a grid, and if any point of a grid rounds to the double, then one of the two
points around the value does; so it is enough to look at these two, for one
digit, for two, and so on. Seventeen digits always suffice.

Everything is exact. Values, grid points and the ends of the interval that
rounds to the double are whole numbers of a common small unit,
`2 ^ -1075 · 10 ^ -340`: the first factor makes room for the midpoints between
doubles, the second for seventeen digits of the least of them.
-/

namespace LosslessScanner

/-- Which of two equally near decimals is taken. -/
inductive Tie where
  /-- The larger one. -/
  | up
  /-- The one whose last digit is even. -/
  | even
  deriving DecidableEq

/-- The positive decimal `significand · 10 ^ exponent`, written without trailing zeros. -/
structure Digits where
  significand : Nat
  exponent : Int
  deriving DecidableEq

namespace Digits

/-- Takes trailing zeros off. -/
def normalize (significand : Nat) (exponent : Int) : Digits :=
  if h : 0 < significand ∧ significand % 10 = 0 then
    normalize (significand / 10) (exponent + 1)
  else ⟨significand, exponent⟩
termination_by significand
decreasing_by exact Nat.div_lt_self h.1 (by decide)

end Digits

namespace Binary64

-- Powers are those of the core library, whatever else is in scope.
attribute [local instance (high)] instPowNat

/-- The exponent of ten of the common unit. -/
def decimalPlaces : Nat := 340

/-- Twice the value of a magnitude in common units. -/
def scaled (magnitude : Nat) : Nat := 2 * units magnitude * 10 ^ decimalPlaces

/-- The middle between a magnitude and the next one. -/
def midpoint (magnitude : Nat) : Nat :=
  (units magnitude + units (magnitude + 1)) * 10 ^ decimalPlaces

/-- A number of common units rounds to a positive magnitude. The ends of the interval do so
exactly if the magnitude is even. -/
def roundsTo (magnitude x : Nat) : Bool :=
  if magnitude % 2 = 0 then midpoint (magnitude - 1) ≤ x && x ≤ midpoint magnitude
  else midpoint (magnitude - 1) < x && x < midpoint magnitude

/-- The point of the grid of step `10 ^ (place - 340)` that rounds to a magnitude and is nearest
to it, counted in steps. -/
def onGrid? (tie : Tie) (magnitude place : Nat) : Option Nat :=
  let step := 10 ^ place * 2 ^ (leastPlace + 1)
  let value := scaled magnitude
  let below := value / step
  let down := value - below * step
  let up := (below + 1) * step - value
  match roundsTo magnitude (below * step), roundsTo magnitude ((below + 1) * step) with
  | false, false => none
  | true, false => some below
  | false, true => some (below + 1)
  | true, true =>
    if down < up then some below
    else if up < down then some (below + 1)
    else match tie with
      | .up => some (below + 1)
      | .even => some (if below % 2 = 0 then below else below + 1)

/-- The shortest decimal that reads back as a positive magnitude. The value has as many digits
before and behind the point as its whole number of places of `10 ^ -340` has digits, and the
grid of `n` digits drops all but the first `n` of them. -/
def shortest (tie : Tie) (magnitude : Nat) : Digits :=
  let places := digitCount (scaled magnitude / 2 ^ (leastPlace + 1))
  let found := (List.range 17).findSome? fun n =>
    (onGrid? tie magnitude (places - (n + 1))).map fun d =>
      Digits.normalize d (places - (n + 1) - decimalPlaces)
  found.getD ⟨0, 0⟩

end Binary64

end LosslessScanner
