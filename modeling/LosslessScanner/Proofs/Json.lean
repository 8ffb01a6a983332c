import LosslessScanner.Proofs.Escapes
import LosslessScanner.Proofs.Number.Range
import LosslessScanner.Text.JsonString

/-!
# JSON

A reader of JSON that accepts what the standard lets a document be and nothing
else: numbers without a plus or a zero in front, strings without bare control
codes, no comma before a closing bracket, one value and nothing behind it. What
is to be shown about a writer is that this reader, which was not made for it,
reads what was meant.

It reads in two steps. The first takes a text apart into atoms, which are the
six structural characters and the values that have no others inside; blanks
fall away here. The second goes through the atoms with a stack of what is still
open. Recursion is on the text and then on the list of the atoms, so neither
needs a bound on the depth of a document.
-/

namespace LosslessScanner

/-- A JSON value. The members of an object stand in order, and a name may be used twice. -/
inductive Json where
  | null
  | bool (b : Bool)
  | number (q : ℚ)
  | string (t : Text)
  | array (values : List Json)
  | object (members : List (Text × Json))

namespace Json

/-! ## Strings -/

/-- The number in the four digits that a text begins with. -/
def fourDigits? (t : Text) : Option Nat :=
  let digits := t.take 4
  if digits.length = 4 ∧ digits.all Pattern.isHexDigit then some (Text.ofHex digits) else none

/-- The code behind the number of a high surrogate, which takes an escape of its own. -/
def surrogates? (high : Nat) : Text → Option Nat
  | '\\' :: 'u' :: t => do
    let low ← fourDigits? t
    if 0xd800 ≤ high ∧ high < 0xdc00 ∧ 0xdc00 ≤ low ∧ low < 0xe000 then
      some (0x10000 + (high - 0xd800) * 0x400 + (low - 0xdc00))
    else none
  | _ => none

/-- A character by its code: four digits, or two times four for one beyond the first plane. -/
def code? (t : Text) : Option (Char × Nat) := do
  let n ← fourDigits? t
  match Text.charOf? n with
  | some c => some (c, 4)
  | none =>
    let n ← surrogates? n (t.drop 4)
    (Text.charOf? n).map fun c => (c, 10)

def escapes : Escapes where
  letters := [('"', '"'), ('\\', '\\'), ('/', '/'), ('b', '\x08'), ('f', '\x0c'), ('n', '\n'),
    ('r', '\r'), ('t', '\t')]
  code? := code?
  bare c := 0x20 ≤ c.toNat

/-! ## Numbers -/

def isNumberChar (c : Char) : Bool :=
  isDigit c || c = '-' || c = '+' || c = '.' || c = 'e' || c = 'E'

/-- A numeral that begins with a digit or a minus, has no zero in front of a digit, and has a
digit behind its point. -/
def number? (t : Text) : Option ℚ :=
  let whole := (splitSign t).2.takeWhile isDigit
  let rest := (splitSign t).2.dropWhile isDigit
  if t.head? ≠ some '+' ∧ whole ≠ [] ∧ (whole.head? = some '0' → whole = ['0']) ∧
      (rest.head? = some '.' → Text.begins isDigit rest.tail) then
    (Decimal.ofNumeral? t).map fun d => if d.negative then -d.magnitude else d.magnitude
  else none

/-! ## Atoms -/

/-- A piece of a document: a structural character, or a value without parts. -/
inductive Atom where
  | openArray
  | closeArray
  | openObject
  | closeObject
  | colon
  | comma
  | scalar (v : Json)

def mark? : Char → Option Atom
  | '[' => some .openArray
  | ']' => some .closeArray
  | '\x7b' => some .openObject
  | '\x7d' => some .closeObject
  | ':' => some .colon
  | ',' => some .comma
  | _ => none

def isBlank (c : Char) : Bool := c = ' ' || c = '\t' || c = '\n' || c = '\r'

def words : List (Text × Json) :=
  [("null".toList, null), ("true".toList, bool true), ("false".toList, bool false)]

/-- A value without parts at the front of a text, and how many characters it has behind its
first. -/
def scalar? (c : Char) (rest : Text) : Option (Json × Nat) :=
  if c = '"' then
    (escapes.read rest).map fun (t, behind) => (string t, rest.length - behind.length)
  else if isNumberChar c then
    let more := rest.takeWhile isNumberChar
    (number? (c :: more)).map fun q => (number q, more.length)
  else
    (words.find? fun w => w.1.isPrefixOf (c :: rest)).map fun w => (w.2, w.1.length - 1)

/-- The atoms of a text, with the blanks between them left out. -/
def atoms? (t : Text) : Option (List Atom) :=
  match t with
  | [] => some []
  | c :: rest =>
    if isBlank c then atoms? rest
    else match mark? c with
      | some a => (atoms? rest).map (a :: ·)
      | none =>
        match scalar? c rest with
        | some (v, more) => (atoms? (rest.drop more)).map (.scalar v :: ·)
        | none => none
termination_by t.length
decreasing_by all_goals simp only [List.length_drop, List.length_cons]; omega

/-! ## Documents -/

/-- What is open around a value: an array with the values before it, or an object with the
members before it and the name that the value is for. -/
inductive Frame where
  | array (before : List Json)
  | object (before : List (Text × Json)) (name : Text)

mutual

/-- Goes on where a value must begin. -/
def value? (frames : List Frame) : List Atom → Option Json
  | .scalar v :: atoms => after? frames v atoms
  | .openArray :: .closeArray :: atoms => after? frames (array []) atoms
  | .openArray :: atoms => value? (.array [] :: frames) atoms
  | .openObject :: .closeObject :: atoms => after? frames (object []) atoms
  | .openObject :: .scalar (string name) :: .colon :: atoms =>
    value? (.object [] name :: frames) atoms
  | _ => none

/-- Goes on behind a value. -/
def after? (frames : List Frame) (v : Json) (atoms : List Atom) : Option Json :=
  match frames, atoms with
  | [], [] => some v
  | .array before :: outer, .comma :: atoms => value? (.array (before ++ [v]) :: outer) atoms
  | .array before :: outer, .closeArray :: atoms => after? outer (array (before ++ [v])) atoms
  | .object before name :: outer, .comma :: .scalar (string next) :: .colon :: atoms =>
    value? (.object (before ++ [(name, v)]) next :: outer) atoms
  | .object before name :: outer, .closeObject :: atoms =>
    after? outer (object (before ++ [(name, v)])) atoms
  | _, _ => none

end

def ofText? (t : Text) : Option Json := (atoms? t).bind (value? [])

/-! ## Looking into a value -/

def elements? : Json → Option (List Json)
  | array values => some values
  | _ => none

def member? (name : Text) : Json → Option Json
  | object members => members.lookup name
  | _ => none

def string? : Json → Option Text
  | string t => some t
  | _ => none

/-! ## Reading what is written -/

theorem code?_append {digits : Text} {c : Char} (hfour : digits.length = 4)
    (hvalue : fourDigits? digits = some c.toNat) (r : Text) :
    code? (digits ++ r) = some (c, 4) := by
  have happend : fourDigits? (digits ++ r) = fourDigits? digits := by
    rw [fourDigits?, fourDigits?, List.take_left' hfour, List.take_of_length_le (Nat.le_of_eq hfour)]
  rw [code?, happend, hvalue]
  simp [Text.charOf?_toNat]

/-- The code of a character below the blank takes two digits, which two zeros bring to four. -/
theorem fourDigits?_hex : ∀ n < 0x20,
    let digits := List.replicate (4 - (Text.hex n).length) '0' ++ Text.hex n
    digits.length = 4 ∧ fourDigits? digits = some n := by
  decide

theorem reads_jsonChar (c : Char) : escapes.Reads (Text.jsonChar c) c := by
  rw [Text.jsonChar]
  split_ifs with hquote hbackslash hback hform hfeed hreturn htab hlow
  · subst hquote
    exact .escaped fun r => rfl
  · subst hbackslash
    exact .escaped fun r => rfl
  · subst hback
    exact .escaped fun r => rfl
  · subst hform
    exact .escaped fun r => rfl
  · subst hfeed
    exact .escaped fun r => rfl
  · subst hreturn
    exact .escaped fun r => rfl
  · subst htab
    exact .escaped fun r => rfl
  · obtain ⟨hfour, hvalue⟩ := fourDigits?_hex c.toNat hlow
    show escapes.Reads ('\\' :: 'u' ::
      (List.replicate (4 - (Text.hex c.toNat).length) '0' ++ Text.hex c.toNat)) c
    generalize List.replicate (4 - (Text.hex c.toNat).length) '0' ++ Text.hex c.toNat = digits
      at hfour hvalue ⊢
    refine .escaped fun r => ?_
    show (code? (digits ++ r)).map _ = _
    rw [code?_append hfour hvalue, List.length_cons, hfour]
    rfl
  · exact .bare hquote hbackslash (by simpa [escapes] using hlow)

theorem number?_ofNat (n : Nat) : number? (Text.ofNat n) = some (n : ℚ) := by
  have htake : (Text.ofNat n).takeWhile isDigit = Text.ofNat n := by
    simpa using Text.takeWhile_ofNat_append (n := n) (r := []) rfl
  have hdrop : (Text.ofNat n).dropWhile isDigit = [] := by
    simpa using Text.dropWhile_ofNat_append (n := n) (r := []) rfl
  have hzero : (Text.ofNat n).head? = some '0' → Text.ofNat n = ['0'] := by
    intro h
    rcases Nat.eq_zero_or_pos n with rfl | hn
    · rfl
    · exact absurd h (Text.head?_ofNat_ne hn)
  obtain ⟨hsign, hplus⟩ := Text.splitSign_of_digits (Text.isDigit_of_mem_ofNat (n := n))
  have hread : Decimal.ofNumeral? (Text.ofNat n) = some ⟨false, n, 0⟩ := by
    simp [Decimal.ofNumeral?, hsign, htake, hdrop, Decimal.splitFraction, Decimal.exponentPart?,
      Text.ofNat_ne_nil, Text.ofDigits_ofNat]
  rw [number?, hsign]
  simp only [htake, hdrop]
  rw [if_pos ⟨hplus, Text.ofNat_ne_nil n, hzero, by simp⟩, hread]
  simp [Decimal.magnitude]

section Atoms

variable (r : Text)

theorem atoms?_blank {c : Char} (h : isBlank c) : atoms? (c :: r) = atoms? r := by
  rw [atoms?, if_pos h]

theorem atoms?_blanks (n : Nat) : atoms? (List.replicate n ' ' ++ r) = atoms? r := by
  induction n with
  | zero => rfl
  | succ n ih => rw [List.replicate_succ, List.cons_append, atoms?_blank _ rfl, ih]

theorem atoms?_mark {c : Char} {a : Atom} (h : mark? c = some a) :
    atoms? (c :: r) = (atoms? r).map (a :: ·) := by
  have hblank : isBlank c = false := by
    unfold mark? at h
    split at h
    all_goals first | rfl | cases h
  simp only [atoms?, hblank, h]
  rfl

theorem atoms?_scalar {c : Char} {w : Text} {v : Json} (hblank : isBlank c = false)
    (hmark : mark? c = none) (h : scalar? c (w ++ r) = some (v, w.length)) :
    atoms? (c :: (w ++ r)) = (atoms? r).map (.scalar v :: ·) := by
  simp only [atoms?, hblank, hmark, h, List.drop_left]
  rfl

theorem atoms?_jsonString (t : Text) :
    atoms? (Text.jsonString t ++ r) = (atoms? r).map (.scalar (string t) :: ·) := by
  have hread := escapes.read_flatMap reads_jsonChar t r
  rw [← List.singleton_append, ← List.append_assoc] at hread
  refine atoms?_scalar r rfl rfl ?_
  rw [scalar?, if_pos rfl, hread]
  simp only [Option.map_some, List.length_append, Nat.add_sub_cancel]

/-- A number ends where no part of a numeral follows. -/
theorem atoms?_ofNat (n : Nat) (h : r.begins isNumberChar = false) :
    atoms? (Text.ofNat n ++ r) = (atoms? r).map (.scalar (number n) :: ·) := by
  have hchars : ∀ c ∈ Text.ofNat n, isNumberChar c := by
    intro c hc
    rw [isNumberChar, Text.isDigit_of_mem_ofNat c hc]
    rfl
  have hvalue := number?_ofNat n
  obtain ⟨c, w, hc⟩ := List.exists_cons_of_ne_nil (Text.ofNat_ne_nil n)
  have hdigit := Text.isDigit_of_mem_ofNat c (by rw [hc]; exact List.mem_cons_self)
  have hne : ∀ d, isDigit d = false → c ≠ d := by
    rintro d hd rfl
    rw [hdigit] at hd
    cases hd
  rw [hc] at hvalue hchars ⊢
  have hmore : (w ++ r).takeWhile isNumberChar = w := by
    rw [Text.takeWhile_eq_take_run,
      Text.run_append (fun d hd => hchars d (List.mem_cons_of_mem c hd)) h, List.take_left]
  refine atoms?_scalar r ?_ ?_ ?_
  · simp [isBlank, hne ' ' rfl, hne '\t' rfl, hne '\n' rfl, hne '\r' rfl]
  · unfold mark?
    split
    all_goals first | rfl | exact absurd hdigit (by decide)
  · rw [scalar?, if_neg (hne '"' rfl), if_pos (hchars c List.mem_cons_self), hmore]
    simp only [hvalue, Option.map_some]

end Atoms

end Json

end LosslessScanner
