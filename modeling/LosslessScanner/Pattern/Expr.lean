import LosslessScanner.Pattern.Tree
import LosslessScanner.Text.SetAlgebra

/-!
# What a pattern means

An expression describes texts. A text is searched for one by taking the
characters one after the other and keeping all that may still have to follow:
`nullable` says that nothing has to, and `derive` what has to follow once a
character has been taken. Both look at the characters on the two sides of where
they are, because an expression may speak of its surroundings.

Whether a repetition prefers more or fewer rounds plays no part here, since all
that is asked is whether there is a match.
-/

namespace LosslessScanner.Pattern

/-- The flags in force at a place of a pattern that have a bearing on what it means. -/
structure Flags where
  ignoreCase : Bool
  multiLine : Bool
  dotAll : Bool
  unicode : Bool
  carriageReturns : Bool
  deriving DecidableEq

/-- Part of a word of ASCII. -/
def isWordChar : Option Char → Bool
  | some c => c.isAlphanum || c == '_'
  | none => false

/-- A line begins between two characters. -/
def beginsLine (carriageReturns : Bool) (before after : Option Char) : Bool :=
  before.isNone || before == some '\n'
    || (carriageReturns && before == some '\r' && after != some '\n')

/-- A line ends between two characters. -/
def endsLine (carriageReturns : Bool) (before after : Option Char) : Bool :=
  if carriageReturns then
    after.isNone || after == some '\r' || (after == some '\n' && before != some '\r')
  else after.isNone || after == some '\n'

/-- A place lies between two characters, or at an end of the text. -/
def Place.holds (f : Flags) (before after : Option Char) : Place → Bool
  | lineStart => if f.multiLine then beginsLine f.carriageReturns before after else before.isNone
  | lineEnd => if f.multiLine then endsLine f.carriageReturns before after else after.isNone
  | textStart => before.isNone
  | textEnd => after.isNone
  | boundary => isWordChar before != isWordChar after
  | notBoundary => isWordChar before == isWordChar after
  | wordStart => !isWordChar before && isWordChar after
  | wordEnd => isWordChar before && !isWordChar after
  | wordStartHalf => !isWordChar before
  | wordEndHalf => !isWordChar after

/-- A place at which a word begins or ends, or does not. -/
def Place.isAboutWords : Place → Bool
  | lineStart | lineEnd | textStart | textEnd => false
  | boundary | notBoundary | wordStart | wordEnd | wordStartHalf | wordEndHalf => true

/-- What texts are to be looked for. -/
inductive Expr where
  | empty
  | one (s : CodePointSet)
  | place (p : Place) (f : Flags)
  | seq (e f : Expr)
  | either (e f : Expr)
  | repetition (e : Expr) (least : Nat) (most : Option Nat)
  /-- A group that remembers what it matched. -/
  | group (e : Expr)
  deriving DecidableEq

namespace Expr

/-- It describes the empty text between two characters. -/
def nullable (before after : Option Char) : Expr → Bool
  | empty => true
  | one _ => false
  | place p f => p.holds f before after
  | seq e f => e.nullable before after && f.nullable before after
  | either e f => e.nullable before after || f.nullable before after
  | repetition e least _ => least == 0 || e.nullable before after
  | group e => e.nullable before after

/-- One after the other. What is empty is left out. -/
def andThen (e f : Expr) : Expr := if e = empty then f else if f = empty then e else seq e f

/-- What may have to follow once a character has been taken. The rounds of a repetition that can
be empty here need not be made up for. -/
def derive (before : Option Char) (c : Char) : Expr → List Expr
  | empty => []
  | one s => if s.contains c then [empty] else []
  | place .. => []
  | seq e f =>
    (e.derive before c).map (andThen · f)
      ++ (if e.nullable before (some c) then f.derive before c else [])
  | either e f => e.derive before c ++ f.derive before c
  | repetition e least most =>
    if most = some 0 then []
    else
      let least := if e.nullable before (some c) then 0 else least - 1
      (e.derive before c).map (andThen · (repetition e least (most.map (· - 1))))
  | group e => e.derive before c

/-- A text has a part that an expression describes, or goes on as one of those that have been
begun. -/
def search (e : Expr) (begun : List Expr) (before : Option Char) : Text → Bool
  | [] => (begun.insert e).any (·.nullable before none)
  | c :: t =>
    let possible := begun.insert e
    possible.any (·.nullable before (some c))
      || search e (possible.flatMap (·.derive before c)).eraseDups (some c) t

/-- A part of a text is described. -/
def occursIn (e : Expr) (t : Text) : Bool := search e [] none t

/-! ## Building expressions -/

/-- All of several expressions, one after the other. -/
def sequence (es : List Expr) : Expr := es.foldr andThen empty

/-- One of several expressions. -/
def anyOf : List Expr → Expr
  | [] => one .empty
  | [e] => e
  | e :: es => either e (anyOf es)

/-- It describes no text but the empty one. -/
def isEmptyOnly : Expr → Bool
  | empty | place .. => true
  | one _ => false
  | seq e f | either e f => e.isEmptyOnly && f.isEmptyOnly
  | repetition e .. | group e => e.isEmptyOnly

/-- An expression repeated. One that is empty in any case need not be repeated more than once. -/
def times (e : Expr) (least : Nat) (most : Option Nat) : Expr :=
  let (least, most) :=
    if e.isEmptyOnly then (min least 1, some (min 1 (most.getD 1))) else (least, most)
  if most = some 0 then empty
  else if least = 1 && most = some 1 then e
  else repetition e least most

/-! ## What a machine can do -/

/-- The words that it speaks of are words of ASCII. Where others begin is not known. -/
def knowsWords : Expr → Bool
  | empty | one _ => true
  | place p f => !(p.isAboutWords && f.unicode)
  | seq e f | either e f => e.knowsWords && f.knowsWords
  | repetition e .. | group e => e.knowsWords

/-- The size of a state of a machine that searches, in bytes. -/
def stateSize : Nat := 32

/-- The size of a state that branches. -/
def branchSize : Nat := stateSize + 8

/-- The size of a machine for one character of a set. A character beyond ASCII is taken byte by
byte; any set with such characters counts as the set of all. -/
def setSize (backward : Bool) (s : CodePointSet) : Nat :=
  if s.isAscii then
    if s.changes.size = 2 && s.changes.getD 1 0 = s.changes.getD 0 0 + 1 then stateSize
    else 2 * stateSize + 4 * s.changes.size
  else if s.changes.size = 2 && s.changes.getD 1 0 = s.changes.getD 0 0 + 1 then
    (Char.ofNat (s.changes.getD 0 0)).utf8Size * stateSize
  else if backward then 31 * stateSize
  else 13 * stateSize

/-- The size of a machine that searches a text forward or backward. A repetition takes as many
copies as its count says. -/
def size (backward : Bool) : Expr → Nat
  | empty | place .. => stateSize
  | one s => setSize backward s
  | seq e f => e.size backward + f.size backward
  | either e f => stateSize + branchSize + e.size backward + f.size backward
  | repetition e least none => max least 1 * e.size backward + branchSize
  | repetition e least (some most) =>
    least * e.size backward + stateSize + (most - least) * (branchSize + e.size backward)
  | group e => (if backward then 0 else 2 * stateSize) + e.size backward

/-- The size that a machine may have. -/
def sizeLimit : Nat := 10 * 1024 * 1024

/-- A machine is small enough to be built. -/
def isSmall (e : Expr) : Bool := e.size false ≤ sizeLimit && e.size true ≤ sizeLimit

end Expr

end LosslessScanner.Pattern
