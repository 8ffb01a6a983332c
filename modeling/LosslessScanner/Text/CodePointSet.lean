/-!
# Sets of code points

A set of code points is kept as the increasing sequence of the points at which
membership changes: the first point that is in, the first after it that is out,
and so on. A code point is then a member exactly if an odd number of changes
lie at or below it, so one search answers membership, and the tables of the
standard are written down as they stand.
-/

namespace LosslessScanner

/-- A set of code points, given by the points at which membership changes. -/
structure CodePointSet where
  /-- The points of change in increasing order; membership starts with `false`. -/
  changes : Array Nat

namespace CodePointSet

/-- Narrows `lo ..< hi` down to the first change above `n`, halving the range at each step. -/
def search (changes : Array Nat) (n : Nat) : Nat → Nat → Nat → Nat
  | 0, lo, _ => lo
  | steps + 1, lo, hi =>
    if lo < hi then
      let mid := (lo + hi) / 2
      if changes.getD mid 0 ≤ n then search changes n steps (mid + 1) hi
      else search changes n steps lo mid
    else lo

/-- How many changes lie at or below `n`. A range of `k` entries is exhausted after
`log2 k + 1` halvings. -/
def rank (s : CodePointSet) (n : Nat) : Nat :=
  search s.changes n (s.changes.size.log2 + 1) 0 s.changes.size

/-- Membership: the number of changes passed is odd. -/
def contains (s : CodePointSet) (c : Char) : Bool := s.rank c.toNat % 2 == 1

end CodePointSet

end LosslessScanner
