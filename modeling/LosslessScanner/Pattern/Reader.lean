import LosslessScanner.Pattern.Group

/-!
# Reading patterns

A pattern is read in one pass. What is read is put into a draft of the innermost
open group, and the drafts of the groups around it wait until it is closed. Each
step takes at least one character. A pattern is refused at the first fault, or,
if it has none, at the first part that is nested too deep.
-/

namespace LosslessScanner.Pattern

/-- What has been read of a group. -/
structure Draft where
  /-- Where its first branch begins. -/
  start : Nat
  /-- The finished branches, the last one first. -/
  branches : List Tree
  /-- Where the branch begins that is being read. -/
  branchStart : Nat
  /-- Its parts, the last one first. -/
  parts : List Tree

namespace Draft

/-- Nothing read from a position on. -/
def empty (index : Nat) : Draft := ⟨index, [], index, []⟩

def push (d : Draft) (t : Tree) : Draft := { d with parts := t :: d.parts }

/-- The branch that is being read, if it ends at a position. -/
def branch (d : Draft) (stop : Nat) : Tree :=
  match d.parts with
  | [] => .empty ⟨d.branchStart, stop⟩
  | [t] => t
  | ts => .sequence ⟨d.branchStart, stop⟩ ts.reverse

/-- All branches, if the last one ends at a position. -/
def closed (d : Draft) (stop : Nat) : Tree :=
  match d.branches with
  | [] => d.branch stop
  | bs => .alternatives ⟨d.start, stop⟩ (d.branch stop :: bs).reverse

/-- Ends the branch that is being read at a position, in front of a bar. -/
def bar (d : Draft) (stop : Nat) : Draft :=
  { d with branches := d.branch stop :: d.branches, branchStart := stop + 1, parts := [] }

end Draft

/-- A group that has not been closed yet. -/
structure OpenGroup where
  /-- What has been read around it. -/
  outer : Draft
  /-- Its parenthesis. -/
  extent : Extent
  flags : Option FlagList
  /-- The form of the pattern around it. -/
  verbose : Bool

/-- In the middle of a pattern. -/
structure State where
  rest : Remainder
  draft : Draft
  /-- The open groups, the innermost first. -/
  groups : List OpenGroup
  /-- The names of groups and where they are given. -/
  names : List (Text × Extent)

namespace State

/-- Goes on with a part more. -/
def push (s : State) (t : Tree) (rest : Remainder) : State :=
  { s with rest, draft := s.draft.push t }

/-- Opens a group, at its parenthesis. -/
def openGroup (s : State) (r : Remainder) : Except Complaint State := do
  let (o, rest) ← opening r
  let enter (flags : Option FlagList) (names : List (Text × Extent)) (verbose : Bool) : State :=
    { rest := { rest with verbose }, draft := .empty rest.index,
      groups := ⟨s.draft, r.here, flags, r.verbose⟩ :: s.groups, names }
  match o with
  | .flags extent fs =>
    let verbose := (FlagList.setting .verbose true fs).getD r.verbose
    .ok (s.push (.flags extent fs) { rest with verbose })
  | .capture => .ok (enter none s.names r.verbose)
  | .named extent name =>
    match s.names.find? (·.1 = name) with
    | some (_, e) => .error ⟨.nameRepeated, extent, some e⟩
    | none => .ok (enter none ((name, extent) :: s.names) r.verbose)
  | .plain fs =>
    .ok (enter (some fs) s.names ((FlagList.setting .verbose true fs).getD r.verbose))

/-- Closes the innermost group, at its parenthesis. -/
def closeGroup (s : State) (r : Remainder) : Except Complaint State :=
  match s.groups with
  | [] => complain .groupUnopened r.here
  | g :: groups =>
    let t := Tree.group (r.next.since g.extent.start) g.flags (s.draft.closed r.index)
    .ok { s with rest := { r.next with verbose := g.verbose }, draft := g.outer.push t, groups }

/-- The last part and the draft without it. Flags cannot be repeated. -/
def popPart (s : State) (r : Remainder) : Except Complaint (Tree × Draft) :=
  match s.draft.parts with
  | [] | .empty _ :: _ | .flags .. :: _ => complain .nothingToRepeat r.point
  | t :: ts => .ok (t, { s.draft with parts := ts })

/-- Repeats the last part. -/
def repeated (s : State) (part : Tree) (draft : Draft) (least : Nat) (most : Option Nat)
    (rest : Remainder) : State :=
  let t := Tree.repetition (rest.since part.extent.start) part least most
  { s with rest, draft := draft.push t }

/-- Reads one of the signs for repetition. -/
def repeatSign (s : State) (r : Remainder) (least : Nat) (most : Option Nat) :
    Except Complaint State := do
  let (part, draft) ← s.popPart r
  let rest := if r.next.text.head? = some '?' then r.next.next else r.next
  .ok (s.repeated part draft least most rest)

/-- Reads a count. -/
def repeatCount (s : State) (r : Remainder) : Except Complaint State := do
  let (part, draft) ← s.popPart r
  let ((least, most), rest) ← countedRepetition r
  .ok (s.repeated part draft least most rest)

/-- Reads what begins with a character. -/
def step (s : State) (r : Remainder) (c : Char) : Except Complaint State :=
  match c with
  | '(' => s.openGroup r
  | ')' => s.closeGroup r
  | '|' => .ok { s with rest := r.next, draft := s.draft.bar r.index }
  | '[' => do
    let (t, rest) ← bracket r
    .ok (s.push t rest)
  | '?' => s.repeatSign r 0 (some 1)
  | '*' => s.repeatSign r 0 none
  | '+' => s.repeatSign r 1 none
  | '\x7b' => s.repeatCount r
  | '\\' => do
    let (t, rest) ← escape r
    .ok (s.push t rest)
  | '.' => .ok (s.push (.dot r.here) r.next)
  | '^' => .ok (s.push (.place r.here .lineStart) r.next)
  | '$' => .ok (s.push (.place r.here .lineEnd) r.next)
  | c => .ok (s.push (.literal ⟨r.here, c, false⟩) r.next)

/-- The whole pattern, if nothing is left. -/
def finish (s : State) (r : Remainder) : Except Complaint Tree :=
  match s.groups with
  | [] => .ok (s.draft.closed r.index)
  | g :: _ => complain .groupUnclosed g.extent

/-- Reads to the end. -/
def read (s : State) : Except Complaint Tree :=
  let r := s.rest.skip
  match r.text with
  | [] => s.finish r
  | c :: _ =>
    match s.step r c with
    | .error e => .error e
    | .ok s' =>
      if s'.rest.text.length < s.rest.text.length then s'.read else s'.finish s'.rest
termination_by s.rest.text.length

end State

/-- Reads a pattern. -/
def Tree.ofText (pattern : Text) : Except Complaint Tree := do
  let t ← State.read ⟨⟨0, pattern, false⟩, .empty 0, [], []⟩
  match t.tooDeep 0 with
  | some e => complain .nestedTooDeep e
  | none => .ok t

end LosslessScanner.Pattern
