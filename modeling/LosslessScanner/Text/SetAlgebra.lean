import LosslessScanner.Text.CodePointSet

/-!
# The algebra of sets of code points

Sets given by their points of change are combined by walking both sequences
side by side: whether a point is in the combination hangs on nothing but whether
it is in the one and in the other. Union, intersection, difference and the rest
are this one walk with different tables of truth.

A set that is built here holds characters only, so the gap that the surrogates
leave is in none of them, and a complement is taken within the characters.
-/

namespace LosslessScanner

deriving instance DecidableEq for CodePointSet

namespace CodePointSet

/-- The points at which a combination changes, from the points at which two sets do, if `a` and
`b` tell membership before the first of them. -/
def mergeChanges (f : Bool → Bool → Bool) (a b : Bool) : List Nat → List Nat → List Nat
  | [], [] => []
  | x :: xs, [] => (if f a b = f (!a) b then [] else [x]) ++ mergeChanges f (!a) b xs []
  | [], y :: ys => (if f a b = f a (!b) then [] else [y]) ++ mergeChanges f a (!b) [] ys
  | x :: xs, y :: ys =>
    if x < y then
      (if f a b = f (!a) b then [] else [x]) ++ mergeChanges f (!a) b xs (y :: ys)
    else if y < x then
      (if f a b = f a (!b) then [] else [y]) ++ mergeChanges f a (!b) (x :: xs) ys
    else
      (if f a b = f (!a) (!b) then [] else [x]) ++ mergeChanges f (!a) (!b) xs ys
termination_by s t => s.length + t.length

/-- The set of the points whose membership in two sets makes `f` true. A point that is in
neither must not. -/
def combine (f : Bool → Bool → Bool) (s t : CodePointSet) : CodePointSet :=
  ⟨(mergeChanges f false false s.changes.toList t.changes.toList).toArray⟩

def empty : CodePointSet := ⟨#[]⟩

/-- All characters. -/
def all : CodePointSet := ⟨#[0, 0xd800, 0xe000, 0x110000]⟩

def union (s t : CodePointSet) : CodePointSet := combine (· || ·) s t

def inter (s t : CodePointSet) : CodePointSet := combine (· && ·) s t

def sdiff (s t : CodePointSet) : CodePointSet := combine (fun a b => a && !b) s t

def symmDiff (s t : CodePointSet) : CodePointSet := combine Bool.xor s t

/-- The characters that are not in a set. -/
def compl (s : CodePointSet) : CodePointSet := sdiff all s

/-- The characters from one to another, both included. -/
def range (lo hi : Char) : CodePointSet := inter all ⟨#[lo.toNat, hi.toNat + 1]⟩

def singleton (c : Char) : CodePointSet := range c c

/-- The union of the ranges between pairs of characters. -/
def ofRanges (rs : List (Char × Char)) : CodePointSet :=
  rs.foldl (fun s r => union s (range r.1 r.2)) empty

/-- A set has no member. -/
def isEmpty (s : CodePointSet) : Bool := s.changes.isEmpty

/-- A set has no members beyond ASCII. -/
def isAscii (s : CodePointSet) : Bool := s.changes.all (· ≤ 0x80)

/-- A set with every ASCII letter added of which it has the other case. -/
def foldCase (s : CodePointSet) : CodePointSet :=
  let upper := inter s (range 'A' 'Z')
  let lower := inter s (range 'a' 'z')
  union s (union ⟨upper.changes.map (· + 32)⟩ ⟨lower.changes.map (· - 32)⟩)

end CodePointSet

end LosslessScanner
