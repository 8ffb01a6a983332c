import LosslessScanner.Pattern.Escape

/-!
# Sets between brackets

Between brackets stand characters, ranges, classes and further sets, whose union
is meant, and signs that join such unions: `&&` for what two have in common,
`--` for their difference, `~~` for what is in one of them only. The signs bind
less than the union and are read from left to right. A minus sign in front, or a
closing bracket in front of everything, stands for itself.
-/

namespace LosslessScanner.Pattern

/-- What has been read of a set. -/
structure SetDraft where
  /-- What stands to the left of the last sign. -/
  left : Option (SetTree × SetOperation)
  /-- Where the union begins that is being read. -/
  start : Nat
  /-- Its parts, the last one first. -/
  items : List SetTree

namespace SetDraft

def push (d : SetDraft) (t : SetTree) : SetDraft := { d with items := t :: d.items }

/-- The union that is being read. -/
def union (d : SetDraft) : SetTree :=
  match d.items with
  | [] => .nothing ⟨d.start, d.start⟩
  | [t] => t
  | last :: _ =>
    let items := d.items.reverse
    .union ⟨(items.headD last).extent.start, last.extent.stop⟩ items

/-- All that has been read. -/
def closed (d : SetDraft) : SetTree :=
  match d.left with
  | none => d.union
  | some (l, op) => .operation ⟨l.extent.start, d.union.extent.stop⟩ op l d.union

end SetDraft

/-- A bracket that has not been closed yet. -/
structure OpenSet where
  /-- What has been read of the set around it. -/
  outer : SetDraft
  /-- What begins it. -/
  extent : Extent
  negated : Bool

/-- In the middle of a set. -/
structure SetState where
  rest : Remainder
  draft : SetDraft
  current : OpenSet
  outers : List OpenSet

/-- Reads minus signs that stand for themselves. -/
def leadingMinus (items : List SetTree) (r : Remainder) : List SetTree × Remainder :=
  match _h : r.text with
  | c :: _ =>
    if c = '-' then leadingMinus (.literal ⟨r.here, '-', false⟩ :: items) r.advance
    else (items, r)
  | [] => (items, r)
termination_by r.text.length
decreasing_by exact Remainder.length_advance_lt (by assumption)

/-- Reads what begins a set, at its bracket. -/
def openSet (outer : SetDraft) (outers : List OpenSet) (r : Remainder) :
    Except Complaint SetState :=
  let start := r.index
  let first := r.advance
  if first.text = [] then complain .setUnclosed (first.since start)
  else
    let negated := first.text.head? = some '^'
    let body := if negated then first.advance else first
    if body.text = [] then complain .setUnclosed (body.since start)
    else
      let (minus, rest) := leadingMinus [] body
      if rest.text = [] then complain .setUnclosed ⟨start, start⟩
      else if minus.isEmpty && rest.text.head? = some ']' then
        let behind := rest.advance
        if behind.text = [] then complain .setUnclosed (behind.since start)
        else
          let bracket := SetTree.literal ⟨rest.here, ']', false⟩
          .ok ⟨behind, ⟨none, body.index, [bracket]⟩, ⟨outer, behind.since start, negated⟩, outers⟩
      else .ok ⟨rest, ⟨none, body.index, minus⟩, ⟨outer, rest.since start, negated⟩, outers⟩

/-- The class of a name. -/
def AsciiClass.ofName? (name : Text) : Option AsciiClass :=
  let named := [("alnum", alnum), ("alpha", alpha), ("ascii", ascii), ("blank", blank),
    ("cntrl", cntrl), ("digit", digit), ("graph", graph), ("lower", lower), ("print", print),
    ("punct", punct), ("space", space), ("upper", upper), ("word", word), ("xdigit", xdigit)]
  (named.find? (·.1.toList = name)).map Prod.snd

/-- Reads a named class such as `[:alpha:]`. What is none is no fault: the bracket then opens a
set. -/
def asciiClass? (r : Remainder) : Option (SetTree × Remainder) :=
  match r.text with
  | '[' :: ':' :: t =>
    let negated := t.head? = some '^'
    let body := if negated then t.drop 1 else t
    let name := body.takeWhile (· ≠ ':')
    match body.drop name.length, AsciiClass.ofName? name with
    | ':' :: ']' :: _, some a =>
      let rest := r.drop ((if negated then 3 else 2) + name.length + 2)
      some (.ascii (rest.since r.index) negated a, rest)
    | _, _ => none
  | _ => none

/-- Reads one character or escape of a set. -/
def setItem (r : Remainder) : Except Complaint (Tree × Remainder) :=
  match r.text with
  | '\\' :: _ => escape r
  | c :: _ => .ok (.literal ⟨r.here, c, false⟩, r.next)
  | [] => complain .setUnclosed r.point

/-- An escape as a part of a set; it has to stand for characters. -/
def setPart : Tree → Except Complaint SetTree
  | .literal l => .ok (.literal l)
  | .shorthand e negated name => .ok (.shorthand e negated name)
  | .property e negated name => .ok (.property e negated name)
  | t => complain .setEscape t.extent

/-- An escape as an end of a range; it has to stand for one character. -/
def rangeBound : Tree → Except Complaint Literal
  | .literal l => .ok l
  | t => complain .rangeBound t.extent

/-- Reads a character, a class or a range. `unclosed` is the bracket to complain of if the
pattern ends. -/
def setRange (unclosed : Extent) (r : Remainder) : Except Complaint (SetTree × Remainder) := do
  let (first, rest) ← setItem r
  let rest := rest.skip
  if rest.text = [] then complain .setUnclosed unclosed
  else if rest.text.head? ≠ some '-' || rest.following = some ']' || rest.following = some '-'
  then do
    let part ← setPart first
    .ok (part, rest)
  else
    let behind := rest.advance
    if behind.text = [] then complain .setUnclosed unclosed
    else do
      let (last, rest) ← setItem behind
      let extent : Extent := ⟨first.extent.start, last.extent.stop⟩
      let lo ← rangeBound first
      let hi ← rangeBound last
      if hi.char < lo.char then complain .rangeReversed extent
      else .ok (.range extent lo hi, rest)

/-- The sign that two equal characters make. -/
def SetOperation.ofChar? : Char → Option SetOperation
  | '&' => some .intersection
  | '-' => some .difference
  | '~' => some .symmetricDifference
  | _ => none

/-- The sign that comes next. -/
def signAhead? (t : Text) : Option SetOperation :=
  match t with
  | c :: d :: _ => if c = d then SetOperation.ofChar? c else none
  | _ => none

/-- Reads one part of a set: what was begun then is a set in the middle, or a whole one. -/
def setStep (s : SetState) : Except Complaint (SetState ⊕ (Tree × Remainder)) :=
  let r := s.rest.skip
  match r.text with
  | [] => complain .setUnclosed s.current.extent
  | '[' :: _ =>
    match asciiClass? r with
    | some (t, rest) => .ok (.inl { s with rest, draft := s.draft.push t })
    | none => (openSet s.draft (s.current :: s.outers) r).map .inl
  | ']' :: _ =>
    let extent := r.next.since s.current.extent.start
    match s.outers with
    | [] => .ok (.inr (.set extent s.current.negated s.draft.closed, r.next))
    | o :: os =>
      let t := SetTree.bracketed extent s.current.negated s.draft.closed
      .ok (.inl ⟨r.next, s.current.outer.push t, o, os⟩)
  | _ =>
    match signAhead? r.text with
    | some op =>
      let rest := r.drop 2
      .ok (.inl { s with rest, draft := ⟨some (s.draft.closed, op), rest.index, []⟩ })
    | none => do
      let (t, rest) ← setRange s.current.extent r
      .ok (.inl { s with rest, draft := s.draft.push t })

/-- Reads a set to its end. Every part takes at least one character. -/
def readSet (s : SetState) : Except Complaint (Tree × Remainder) :=
  match setStep s with
  | .error c => .error c
  | .ok (.inr whole) => .ok whole
  | .ok (.inl s') =>
    if s'.rest.text.length < s.rest.text.length then readSet s'
    else complain .setUnclosed s.current.extent
termination_by s.rest.text.length

/-- Reads a set, at its bracket. -/
def bracket (r : Remainder) : Except Complaint (Tree × Remainder) := do
  let s ← openSet ⟨none, r.index, []⟩ [] r
  readSet s

end LosslessScanner.Pattern
