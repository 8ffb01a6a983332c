import LosslessScanner.Pattern.Expr
import LosslessScanner.Pattern.Remainder

/-!
# From the form of a pattern to its meaning

The flags in force decide what the parts of a pattern mean. They change in the
course of a group and are what they were once it is closed.

There are no tables here for letters, digits and blanks of all scripts, nor for
their cases: what would need one is refused. With the flag for Unicode off, a
pattern speaks of bytes, of which only those of ASCII are characters by
themselves, and what would match any other byte is refused, since it might match
a part of a character.
-/

namespace LosslessScanner.Pattern

namespace Flags

/-- The flags that a pattern begins with. -/
def initial : Flags := ⟨false, false, false, true, false⟩

/-- The flags in force behind a list of flags. -/
def update (f : Flags) (fs : FlagList) : Flags where
  ignoreCase := (fs.setting .ignoreCase true).getD f.ignoreCase
  multiLine := (fs.setting .multiLine true).getD f.multiLine
  dotAll := (fs.setting .dotAll true).getD f.dotAll
  unicode := (fs.setting .unicode true).getD f.unicode
  carriageReturns := (fs.setting .carriageReturns true).getD f.carriageReturns

end Flags

/-- The characters of a named class. -/
def AsciiClass.set : AsciiClass → CodePointSet
  | alnum => .ofRanges [('0', '9'), ('A', 'Z'), ('a', 'z')]
  | alpha => .ofRanges [('A', 'Z'), ('a', 'z')]
  | ascii => .range '\x00' '\x7f'
  | blank => .ofRanges [('\t', '\t'), (' ', ' ')]
  | cntrl => .ofRanges [('\x00', '\x1f'), ('\x7f', '\x7f')]
  | digit => .range '0' '9'
  | graph => .range '!' '~'
  | lower => .range 'a' 'z'
  | print => .range ' ' '~'
  | punct => .ofRanges [('!', '/'), (':', '@'), ('[', '\x60'), ('\x7b', '~')]
  | space => .ofRanges [('\t', '\r'), (' ', ' ')]
  | upper => .range 'A' 'Z'
  | word => .ofRanges [('0', '9'), ('A', 'Z'), ('_', '_'), ('a', 'z')]
  | xdigit => .ofRanges [('0', '9'), ('A', 'F'), ('a', 'f')]

/-- The characters of ASCII of a class that a letter names. -/
def Shorthand.set : Shorthand → CodePointSet
  | digit => AsciiClass.set .digit
  | space => AsciiClass.set .space
  | word => AsciiClass.set .word

/-- A literal as a character. -/
def Literal.meaning (f : Flags) (l : Literal) : Except Complaint Char :=
  if !f.unicode && l.isByte && 0x80 ≤ l.char.toNat then complain .noText l.extent else .ok l.char

/-- A literal as a character of a set. -/
def Literal.member (f : Flags) (l : Literal) : Except Complaint Char := do
  let c ← l.meaning f
  if !f.unicode && 0x80 ≤ c.toNat then complain .beyondAscii l.extent else .ok c

/-- A class that a letter names. -/
def Shorthand.meaning (f : Flags) (extent : Extent) (negated : Bool) (name : Shorthand) :
    Except Complaint CodePointSet :=
  if f.unicode then complain .shorthandUnavailable extent
  else if negated then complain .noText extent
  else .ok name.set

/-- The name of a property without what does not matter in it: case, blanks, minus signs,
underscores, what is not of ASCII, and the word "is" in front. -/
def plainName (name : Text) : Text :=
  let body := if (name.take 2).map Char.toLower = ['i', 's'] then name.drop 2 else name
  (body.filter fun c => c.toNat < 0x80 && c != ' ' && c != '_' && c != '-').map Char.toLower

/-- No property is known. Three names are taken for values of the general category, and no value
is known either. -/
def propertyFault (f : Flags) (name : Text) : Fault :=
  if !f.unicode then .beyondAscii
  else if ["cf", "sc", "lc"].any (·.toList = plainName name) then .propertyValueUnknown
  else .propertyUnknown

/-- A set once its bracket is closed: letters are joined by their other case, and a set that is
meant the other way round is turned. -/
def closeSet (f : Flags) (extent : Extent) (negated : Bool) (s : CodePointSet) :
    Except Complaint CodePointSet :=
  if f.unicode then
    if f.ignoreCase && !s.isEmpty then complain .caseUnavailable extent
    else .ok (if negated then s.compl else s)
  else
    let s := if f.ignoreCase then s.foldCase else s
    let s := if negated then s.compl else s
    if s.isAscii then .ok s else complain .noText extent

/-- Joins two sets. -/
def SetOperation.apply : SetOperation → CodePointSet → CodePointSet → CodePointSet
  | intersection => CodePointSet.inter
  | difference => CodePointSet.sdiff
  | symmetricDifference => CodePointSet.symmDiff

mutual

/-- The characters of a set. -/
def SetTree.meaning (f : Flags) : SetTree → Except Complaint CodePointSet
  | .nothing _ => .ok .empty
  | .literal l => do
    let c ← l.member f
    .ok (.singleton c)
  | .range _ first last => do
    let lo ← first.member f
    let hi ← last.member f
    .ok (.range lo hi)
  | .ascii extent negated name => closeSet f extent negated name.set
  | .shorthand extent negated name => name.meaning f extent negated
  | .property extent _ name => complain (propertyFault f name) extent
  | .bracketed extent negated inner => do
    let s ← inner.meaning f
    closeSet f extent negated s
  | .union _ items => SetTree.unionMeaning f items
  | .operation _ op left right => do
    let l ← left.meaning f
    let r ← right.meaning f
    let r ← if f.ignoreCase then closeSet f right.extent false r else .ok r
    let l ← if f.ignoreCase then closeSet f left.extent false l else .ok l
    .ok (op.apply l r)

/-- The characters of any of several sets. -/
def SetTree.unionMeaning (f : Flags) : List SetTree → Except Complaint CodePointSet
  | [] => .ok .empty
  | t :: ts => do
    let s ← t.meaning f
    let rest ← SetTree.unionMeaning f ts
    .ok (s.union rest)

end

/-- What a literal looks for. -/
def Literal.expr (f : Flags) (l : Literal) : Except Complaint Expr := do
  let c ← l.meaning f
  if !f.ignoreCase then .ok (.one (.singleton c))
  else if f.unicode then complain .caseUnavailable l.extent
  else .ok (.one (CodePointSet.singleton c).foldCase)

/-- What a dot looks for. -/
def dotExpr (f : Flags) (extent : Extent) : Except Complaint Expr :=
  if !f.unicode then complain .noText extent
  else if f.dotAll then .ok (.one .all)
  else
    let lineEnds :=
      if f.carriageReturns then CodePointSet.ofRanges [('\n', '\n'), ('\r', '\r')]
      else .singleton '\n'
    .ok (.one lineEnds.compl)

mutual

/-- What a pattern looks for, and the flags in force behind it. -/
def Tree.meaning (f : Flags) : Tree → Except Complaint (Expr × Flags)
  | .empty _ => .ok (.empty, f)
  | .flags _ fs => .ok (.empty, f.update fs)
  | .literal l => do
    let e ← l.expr f
    .ok (e, f)
  | .dot extent => do
    let e ← dotExpr f extent
    .ok (e, f)
  | .place _ p => .ok (.place p f, f)
  | .shorthand extent negated name => do
    let s ← name.meaning f extent negated
    .ok (.one s, f)
  | .property extent _ name => complain (propertyFault f name) extent
  | .set extent negated inner => do
    let s ← inner.meaning f
    let s ← closeSet f extent negated s
    .ok (.one s, f)
  | .repetition _ part least most => do
    let (e, f) ← part.meaning f
    .ok (e.times least most, f)
  | .group _ none part => do
    let (e, _) ← part.meaning f
    .ok (.group e, f)
  | .group _ (some fs) part => do
    let (e, _) ← part.meaning (f.update fs)
    .ok (e, f)
  | .alternatives _ branches => do
    let (es, f) ← Tree.meanings f branches
    .ok (Expr.anyOf es, f)
  | .sequence _ parts => do
    let (es, f) ← Tree.meanings f parts
    .ok (Expr.sequence es, f)

/-- What several patterns look for, one after the other in the scope of one group. -/
def Tree.meanings (f : Flags) : List Tree → Except Complaint (List Expr × Flags)
  | [] => .ok ([], f)
  | t :: ts => do
    let (e, f) ← t.meaning f
    let (es, f) ← Tree.meanings f ts
    .ok (e :: es, f)

end

end LosslessScanner.Pattern
