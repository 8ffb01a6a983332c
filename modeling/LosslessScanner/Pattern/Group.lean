import LosslessScanner.Pattern.Bracket
import LosslessScanner.Text.Numeric

/-!
# What an opening parenthesis begins, and what a count says

Behind an opening parenthesis a question mark may introduce flags, which hold
for the group or, if the parenthesis is closed at once, for what follows; or a
name for what the group matches. A count between braces says how often the part
in front of it is repeated.
-/

namespace LosslessScanner.Pattern

/-- The flag of a letter. -/
def Flag.ofLetter? : Char → Option Flag
  | 'i' => some .ignoreCase
  | 'm' => some .multiLine
  | 's' => some .dotAll
  | 'U' => some .lazyFirst
  | 'u' => some .unicode
  | 'R' => some .carriageReturns
  | 'x' => some .verbose
  | _ => none

/-- Reads flags up to a colon or a closing parenthesis, given those in front with the last one
first. None may be repeated, and there may be one minus sign, which must not be the last. -/
def readFlags (seen : List (Option Flag × Extent)) (index : Nat) :
    Text → Except Complaint FlagList
  | [] => complain .flagUnfinished ⟨index, index⟩
  | c :: t =>
    let here : Extent := ⟨index, index + 1⟩
    if c = ':' || c = ')' then
      match seen with
      | (none, e) :: _ => complain .negationDangling e
      | _ => .ok (seen.reverse.map Prod.fst)
    else match (if c = '-' then some none else (Flag.ofLetter? c).map some) with
    | none => complain .flagUnknown here
    | some item =>
      match seen.find? (·.1 = item) with
      | some (_, e) =>
        .error ⟨if item.isNone then .negationRepeated else .flagRepeated, here, some e⟩
      | none => readFlags ((item, here) :: seen) (index + 1) t

/-- A character that a name may begin with. -/
def isNameStart (c : Char) : Bool := c = '_' || isLetter c

/-- A character that a name may go on with. -/
def isNamePart (c : Char) : Bool :=
  isNameStart c || c = '.' || c = '[' || c = ']' || isDigit c || Text.numeric.contains c

/-- Reads the name of a group up to its closing angle, given the letters in front with the last
one first. -/
def readName (seen : Text) (index : Nat) : Text → Except Complaint Text
  | [] => complain .nameUnfinished ⟨index, index⟩
  | c :: t =>
    if c = '>' then
      if seen.isEmpty then complain .nameMissing ⟨index, index⟩ else .ok seen.reverse
    else if isNamePart c && (!seen.isEmpty || isNameStart c) then
      readName (c :: seen) (index + 1) t
    else complain .nameCharacter ⟨index, index + 1⟩

/-- What an opening parenthesis begins. -/
inductive Opening where
  /-- Nothing but flags for what follows. -/
  | flags (extent : Extent) (fs : FlagList)
  /-- A group that remembers what it matched. -/
  | capture
  /-- Such a group with a name. -/
  | named (extent : Extent) (name : Text)
  /-- A group with flags for what is in it. -/
  | plain (fs : FlagList)

/-- Reads the name of a group, at its first letter. -/
def namedGroup (r : Remainder) : Except Complaint (Opening × Remainder) := do
  let name ← readName [] r.index r.text
  .ok (.named ⟨r.index, r.index + name.length⟩ name, r.drop (name.length + 1))

/-- Reads flags, at the first of them, in a parenthesis opened at `start` with its question mark
at `mark`. -/
def flagGroup (start mark : Nat) (r : Remainder) : Except Complaint (Opening × Remainder) := do
  if r.text = [] then complain .groupUnclosed ⟨start, start + 1⟩
  else
    let fs ← readFlags [] r.index r.text
    let rest := r.drop (fs.length + 1)
    if (r.text.drop fs.length).head? = some ':' then .ok (.plain fs, rest)
    else if fs.isEmpty then complain .nothingToRepeat ⟨mark, mark⟩
    else .ok (.flags (rest.since start) fs, rest)

/-- Reads what a parenthesis begins, at the parenthesis. -/
def opening (r : Remainder) : Except Complaint (Opening × Remainder) :=
  let first := r.advance
  match first.text with
  | '?' :: '=' :: _ | '?' :: '!' :: _ => complain .lookAround ((first.drop 2).since r.index)
  | '?' :: '<' :: '=' :: _ | '?' :: '<' :: '!' :: _ =>
    complain .lookAround ((first.drop 3).since r.index)
  | '?' :: 'P' :: '<' :: _ => namedGroup (first.drop 3)
  | '?' :: '<' :: _ => namedGroup (first.drop 2)
  | '?' :: _ => flagGroup r.index first.index first.next
  | _ => .ok (.capture, first)

/-! ## Counts -/

/-- The least number that is too large to count with. -/
def countBound : Nat := UInt32.size

/-- Reads a number with blanks around it. What is wrong with it matters only if the number is
wanted. -/
def count (r : Remainder) : Except Complaint Nat × Remainder :=
  let first := r.drop (Text.run isBlank r.text)
  let (digits, rest) := first.collect isDigit
  let extent := rest.since first.index
  let n := digits.foldl (fun n c => 10 * n + (c.toNat - '0'.toNat)) 0
  let value :=
    if digits.isEmpty then complain .countMissing extent
    else if countBound ≤ n then complain .countTooLarge extent
    else .ok n
  (value, (rest.collect isBlank).2)

/-- Reads the numbers between braces, at the first of them, up to the closing brace: how often at
least, and how often at most. -/
def counts (start : Nat) (r : Remainder) : Except Complaint ((Nat × Option Nat) × Remainder) :=
  let (least, rest) := count r
  match rest.text with
  | [] => complain .countUnclosed (rest.since start)
  | ',' :: _ =>
    let second := rest.advance
    match second.text with
    | [] => complain .countUnclosed (second.since start)
    | '\x7d' :: _ => do
      let lo ← least
      .ok ((lo, none), second)
    | _ => do
      let lo ← least
      let (most, rest) := count second
      let hi ← most
      .ok ((lo, some hi), rest)
  | _ => do
    let n ← least
    .ok ((n, some n), rest)

/-- Reads a count between braces, at the opening one. A question mark behind it prefers fewer
repetitions, which makes no difference to whether there is a match. -/
def countedRepetition (r : Remainder) : Except Complaint ((Nat × Option Nat) × Remainder) := do
  let first := r.advance
  if first.text = [] then complain .countUnclosed (first.since r.index)
  else
    let ((least, most), rest) ← counts r.index first
    if rest.text.head? ≠ some '\x7d' then complain .countUnclosed (rest.since r.index)
    else
      let behind := rest.advance
      let behind := if behind.text.head? = some '?' then behind.next else behind
      if most.any (· < least) then complain .countReversed (behind.since r.index)
      else .ok ((least, most), behind)

end LosslessScanner.Pattern
