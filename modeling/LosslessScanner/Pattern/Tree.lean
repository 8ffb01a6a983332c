import LosslessScanner.Pattern.Complaint

/-!
# How a pattern is built

The tree of a pattern keeps what was written and where. What it means depends on
the flags in force at each place, and is settled later, in `Meaning`.
-/

namespace LosslessScanner.Pattern

/-- What can be switched on and off from a place in a pattern on. -/
inductive Flag where
  | ignoreCase
  | multiLine
  | dotAll
  | lazyFirst
  | unicode
  | carriageReturns
  | verbose
  deriving DecidableEq

/-- Flags as they are written: each is switched on, or off behind a minus sign (`none`). -/
abbrev FlagList := List (Option Flag)

/-- What a list of flags says about one of them. -/
def FlagList.setting (flag : Flag) (on : Bool) : FlagList → Option Bool
  | [] => none
  | none :: fs => setting flag false fs
  | some f :: fs => if f = flag then some on else setting flag on fs

/-- One character, written as itself or as an escape. -/
structure Literal where
  extent : Extent
  char : Char
  /-- It is written by two hexadecimal digits, and where text is seen as bytes it is one. -/
  isByte : Bool

/-- A place in a text, told by what is on its two sides. -/
inductive Place where
  | lineStart
  | lineEnd
  | textStart
  | textEnd
  | boundary
  | notBoundary
  | wordStart
  | wordEnd
  | wordStartHalf
  | wordEndHalf
  deriving DecidableEq

/-- Classes of characters that have a letter for a name. -/
inductive Shorthand where
  | digit
  | space
  | word
  deriving DecidableEq

/-- Classes of ASCII characters that have a word for a name. -/
inductive AsciiClass where
  | alnum
  | alpha
  | ascii
  | blank
  | cntrl
  | digit
  | graph
  | lower
  | print
  | punct
  | space
  | upper
  | word
  | xdigit
  deriving DecidableEq

/-- What joins two sets. -/
inductive SetOperation where
  | intersection
  | difference
  | symmetricDifference
  deriving DecidableEq

/-- What is written between brackets. -/
inductive SetTree where
  | nothing (extent : Extent)
  | literal (l : Literal)
  | range (extent : Extent) (first last : Literal)
  | ascii (extent : Extent) (negated : Bool) (name : AsciiClass)
  | shorthand (extent : Extent) (negated : Bool) (name : Shorthand)
  | property (extent : Extent) (negated : Bool) (name : Text)
  | bracketed (extent : Extent) (negated : Bool) (inner : SetTree)
  | union (extent : Extent) (items : List SetTree)
  | operation (extent : Extent) (op : SetOperation) (left right : SetTree)

/-- Where a part of a set is written. -/
def SetTree.extent : SetTree → Extent
  | nothing e | range e _ _ | ascii e _ _ | shorthand e _ _ | property e _ _ | bracketed e _ _
  | union e _ | operation e _ _ _ => e
  | literal l => l.extent

/-- A pattern. -/
inductive Tree where
  | empty (extent : Extent)
  /-- Flags for what follows in the same group. -/
  | flags (extent : Extent) (fs : FlagList)
  | literal (l : Literal)
  | dot (extent : Extent)
  | place (extent : Extent) (p : Place)
  | shorthand (extent : Extent) (negated : Bool) (name : Shorthand)
  | property (extent : Extent) (negated : Bool) (name : Text)
  | set (extent : Extent) (negated : Bool) (inner : SetTree)
  /-- A part repeated so many times at least, and at most if there is a bound. -/
  | repetition (extent : Extent) (part : Tree) (least : Nat) (most : Option Nat)
  /-- A group that remembers what it matched has no flags. -/
  | group (extent : Extent) (fs : Option FlagList) (part : Tree)
  | alternatives (extent : Extent) (branches : List Tree)
  | sequence (extent : Extent) (parts : List Tree)

/-- Where a part of a pattern is written. -/
def Tree.extent : Tree → Extent
  | empty e | flags e _ | dot e | place e _ | shorthand e _ _ | property e _ _ | set e _ _
  | repetition e _ _ _ | group e _ _ | alternatives e _ | sequence e _ => e
  | literal l => l.extent

/-! ## Depth -/

mutual

/-- The first part of a set that is nested too deep, if there is one. -/
def SetTree.tooDeep (depth : Nat) : SetTree → Option Extent
  | .nothing _ | .literal _ | .range .. | .ascii .. | .shorthand .. | .property .. => none
  | .bracketed e _ inner => if nestLimit ≤ depth then some e else inner.tooDeep (depth + 1)
  | .union e items => if nestLimit ≤ depth then some e else SetTree.anyTooDeep (depth + 1) items
  | .operation e _ left right =>
    if nestLimit ≤ depth then some e
    else left.tooDeep (depth + 1) <|> right.tooDeep (depth + 1)

def SetTree.anyTooDeep (depth : Nat) : List SetTree → Option Extent
  | [] => none
  | t :: ts => t.tooDeep depth <|> SetTree.anyTooDeep depth ts

end

mutual

/-- The first part of a pattern that is nested too deep, if there is one. -/
def Tree.tooDeep (depth : Nat) : Tree → Option Extent
  | .empty _ | .flags .. | .literal _ | .dot _ | .place .. | .shorthand .. | .property .. => none
  | .set e _ inner => if nestLimit ≤ depth then some e else inner.tooDeep (depth + 1)
  | .repetition e part _ _ => if nestLimit ≤ depth then some e else part.tooDeep (depth + 1)
  | .group e _ part => if nestLimit ≤ depth then some e else part.tooDeep (depth + 1)
  | .alternatives e ts | .sequence e ts =>
    if nestLimit ≤ depth then some e else Tree.anyTooDeep (depth + 1) ts

def Tree.anyTooDeep (depth : Nat) : List Tree → Option Extent
  | [] => none
  | t :: ts => t.tooDeep depth <|> Tree.anyTooDeep depth ts

end

end LosslessScanner.Pattern
