import LosslessScanner.Pattern.Remainder

/-!
# Escapes

A backslash takes the meaning from a sign and gives one to a letter: it writes a
character by its number, names a class of characters, or stands for a place in a
text. A backslash in front of anything else of ASCII but a digit or an angle is
allowed and changes nothing.
-/

namespace LosslessScanner.Pattern

/-- A digit of a hexadecimal number. -/
def isHexDigit (c : Char) : Bool :=
  c.isDigit || ('a' ≤ c && c ≤ 'f') || ('A' ≤ c && c ≤ 'F')

/-- The value of a hexadecimal digit. -/
def hexDigit (c : Char) : Nat :=
  if c.isDigit then c.toNat - '0'.toNat else c.toLower.toNat - 'a'.toNat + 10

/-- The character that hexadecimal digits number. -/
def hexChar? (digits : Text) : Option Char :=
  let n := digits.foldl (fun n c => 16 * n + hexDigit c) 0
  if n.isValidChar then some (Char.ofNat n) else none

/-- Reads so many more hexadecimal digits. -/
def hexDigits : Nat → Text → Remainder → Except Complaint (Text × Remainder)
  | 0, digits, r => .ok (digits.reverse, r)
  | n + 1, digits, r =>
    match r.text with
    | [] => complain .escapeUnfinished r.point
    | c :: _ =>
      if isHexDigit c then hexDigits n (c :: digits) r.advance else complain .hexDigit r.here

/-- Reads a number between braces, at the opening one, that belongs to an escape begun at
`start`. -/
def bracedHex (start : Nat) (r : Remainder) : Except Complaint (Literal × Remainder) :=
  let (digits, rest) := Remainder.collect isHexDigit r.advance
  match rest.text with
  | [] => complain .escapeUnfinished (rest.since r.index)
  | '\x7d' :: _ =>
    let after := rest.advance
    if digits.isEmpty then complain .hexMissing (after.since r.index)
    else match hexChar? digits with
      | none => complain .hexNoCharacter (rest.since (r.index + 1))
      | some c => .ok (⟨after.since start, c, false⟩, after)
  | _ :: _ => complain .hexDigit rest.here

/-- Reads the number of a character, at the letter that says how many digits it has outside
braces. -/
def hexEscape (start : Nat) (letter : Char) (r : Remainder) :
    Except Complaint (Literal × Remainder) :=
  let first := r.advance
  match first.text with
  | [] => complain .escapeUnfinished first.point
  | '\x7b' :: _ => bracedHex start first
  | _ => do
    let size := if letter = 'x' then 2 else if letter = 'u' then 4 else 8
    let (digits, rest) ← hexDigits size [] first
    match hexChar? digits with
    | none => complain .hexNoCharacter (rest.since first.index)
    | some c => .ok (⟨rest.since start, c, letter = 'x'⟩, rest)

/-- Reads a property, at the letter `p` or `P`: its name has one letter or stands between
braces. -/
def propertyEscape (start : Nat) (letter : Char) (r : Remainder) :
    Except Complaint (Tree × Remainder) :=
  let first := r.advance
  match first.text with
  | [] => complain .escapeUnfinished first.point
  | '\x7b' :: _ =>
    let (name, rest) := Remainder.collect (· ≠ '\x7d') first.advance
    match rest.text with
    | [] => complain .escapeUnfinished rest.point
    | _ :: _ => .ok (.property (rest.next.since start) (letter = 'P') name, rest.next)
  | '\\' :: _ => complain .propertyName first.here
  | c :: _ => .ok (.property (first.advance.since start) (letter = 'P') [c], first.advance)

/-- The class that a letter names, and whether it is meant the other way round. -/
def Shorthand.ofLetter? : Char → Option (Shorthand × Bool)
  | 'd' => some (.digit, false)
  | 'D' => some (.digit, true)
  | 's' => some (.space, false)
  | 'S' => some (.space, true)
  | 'w' => some (.word, false)
  | 'W' => some (.word, true)
  | _ => none

/-- The control character that a letter stands for. -/
def controlLetter? : Char → Option Char
  | 'a' => some '\x07'
  | 'f' => some '\x0c'
  | 't' => some '\t'
  | 'n' => some '\n'
  | 'r' => some '\r'
  | 'v' => some '\x0b'
  | _ => none

/-- The place that a character stands for. -/
def Place.ofChar? : Char → Option Place
  | 'A' => some .textStart
  | 'z' => some .textEnd
  | 'b' => some .boundary
  | 'B' => some .notBoundary
  | '<' => some .wordStart
  | '>' => some .wordEnd
  | _ => none

/-- The place that a word between braces stands for behind `\b`. -/
def Place.ofWord? (word : Text) : Option Place :=
  if word = "start".toList then some .wordStart
  else if word = "end".toList then some .wordEnd
  else if word = "start-half".toList then some .wordStartHalf
  else if word = "end-half".toList then some .wordEndHalf
  else none

/-- What a word for a place is made of. -/
def isPlaceLetter (c : Char) : Bool := c.isAlpha || c = '-'

/-- Reads what may follow `\b`, at a brace. If no word begins there, the brace is left for a
repetition. -/
def bracedPlace (start : Nat) (r : Remainder) : Except Complaint (Tree × Remainder) :=
  let first := r.advance
  match first.text with
  | [] => complain .boundaryUnfinished (first.since start)
  | c :: _ =>
    if isPlaceLetter c then
      let (word, rest) := Remainder.collect isPlaceLetter first
      match rest.text with
      | '\x7d' :: _ =>
        match Place.ofWord? word with
        | some p => .ok (.place (rest.next.since start) p, rest.next)
        | none => complain .boundaryUnknown (rest.since first.index)
      | _ => complain .boundaryUnclosed (rest.since r.index)
    else .ok (.place (r.since start) .boundary, r)

/-- A backslash in front of it changes nothing. -/
def isPlainEscape (c : Char) : Bool :=
  c.toNat < 0x80 && !(c.isAlphanum || c = '<' || c = '>')

/-- Reads an escape, at its backslash. -/
def escape (r : Remainder) : Except Complaint (Tree × Remainder) :=
  let start := r.index
  let body := r.next
  match body.text with
  | [] => complain .escapeUnfinished (body.since start)
  | c :: _ =>
    let after := body.next
    let extent := after.since start
    if c.isDigit then complain .backreference extent
    else if c = 'x' || c = 'u' || c = 'U' then do
      let (l, rest) ← hexEscape start c body
      .ok (.literal l, rest)
    else if c = 'p' || c = 'P' then propertyEscape start c body
    else match Shorthand.ofLetter? c with
    | some (name, negated) => .ok (.shorthand extent negated name, after)
    | none =>
      if isPlainEscape c then .ok (.literal ⟨extent, c, false⟩, after)
      else match controlLetter? c with
      | some k => .ok (.literal ⟨extent, k, false⟩, after)
      | none =>
        match Place.ofChar? c with
        | none => complain .escapeUnknown extent
        | some p =>
          if p = .boundary && after.text.head? = some '\x7b' then bracedPlace start after
          else .ok (.place extent p, after)

end LosslessScanner.Pattern
