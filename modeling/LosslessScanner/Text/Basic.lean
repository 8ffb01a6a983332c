/-!
# Text

A text is the list of its characters. Scanning and printing are recursion on
that list, so nothing ever has to be said about positions inside a buffer; a
`String` appears only where a program reads or writes.

Positions that a reader of the program sees are byte offsets into the UTF-8
form of a text. They enter through one function, `byteSize`, which is additive
over `++`, and that is all the rest of the library needs to know of bytes.
-/

namespace LosslessScanner

/-- A text is the list of its characters. -/
abbrev Text := List Char

namespace Text

/-! ## Size in bytes -/

/-- How many bytes the UTF-8 form of a text has. -/
def byteSize (t : Text) : Nat := t.foldr (fun c n => c.utf8Size + n) 0

@[simp] theorem byteSize_nil : byteSize [] = 0 := rfl

@[simp] theorem byteSize_cons (c : Char) (t : Text) :
    byteSize (c :: t) = c.utf8Size + byteSize t := rfl

@[simp] theorem byteSize_append (s t : Text) : byteSize (s ++ t) = byteSize s + byteSize t := by
  induction s with
  | nil => simp
  | cons c s ih => simp [ih, Nat.add_assoc]

/-- No character is empty, so a text has at least as many bytes as characters. -/
theorem length_le_byteSize (t : Text) : t.length ≤ byteSize t := by
  induction t with
  | nil => exact Nat.le_refl 0
  | cons c t ih =>
    have := c.utf8Size_pos
    simp only [List.length_cons, byteSize_cons]
    omega

/-! ## Runs

A run is the longest prefix whose characters all belong to a class. Only its
length is ever needed: the run itself is `take` and what follows it is `drop`.
-/

/-- The length of the longest prefix of `t` in the class `p`. -/
def run (p : Char → Bool) : Text → Nat
  | [] => 0
  | c :: t => if p c then run p t + 1 else 0

@[simp] theorem run_nil (p : Char → Bool) : run p [] = 0 := rfl

theorem run_le_length (p : Char → Bool) (t : Text) : run p t ≤ t.length := by
  induction t with
  | nil => exact Nat.le_refl 0
  | cons c t ih =>
    by_cases h : p c
    · simp only [run, h, if_true, List.length_cons]
      omega
    · simp [run, h]

/-- All of a run is in the class. -/
theorem mem_take_run {p : Char → Bool} {t : Text} {c : Char} (h : c ∈ t.take (run p t)) : p c := by
  induction t with
  | nil => simp at h
  | cons d t ih =>
    by_cases hd : p d
    · simp only [run, hd, if_true, List.take_succ_cons, List.mem_cons] at h
      rcases h with rfl | h
      · exact hd
      · exact ih h
    · simp [run, hd] at h

/-- What follows a run does not begin with a character of the class. -/
theorem head?_drop_run {p : Char → Bool} {t : Text} {c : Char}
    (h : (t.drop (run p t)).head? = some c) : p c = false := by
  induction t with
  | nil => simp at h
  | cons d t ih =>
    by_cases hd : p d
    · simp only [run, hd, if_true, List.drop_succ_cons] at h
      exact ih h
    · simp only [run, hd, Bool.false_eq_true, if_false, List.drop_zero, List.head?_cons,
        Option.some.injEq] at h
      rw [← h]
      exact eq_false_of_ne_true hd

/-! ## Layout of output -/

/-- A number in decimal digits, without leading zeros. -/
def ofNat (n : Nat) : Text := Nat.toDigits 10 n

/-- A text brought to a least width by blanks in front. -/
def padLeft (width : Nat) (t : Text) : Text := List.replicate (width - t.length) ' ' ++ t

@[simp] theorem padLeft_length (t : Text) : padLeft t.length t = t := by
  rw [padLeft, Nat.sub_self]
  rfl

/-- A text brought to a least width by blanks behind. -/
def padRight (width : Nat) (t : Text) : Text := t ++ List.replicate (width - t.length) ' '

/-- Lines joined by line feeds; there is none after the last. -/
def joinLines (lines : List Text) : Text := ['\n'].intercalate lines

/-- What is left of a text once the characters of a class are taken off both ends. -/
def trim (p : Char → Bool) (t : Text) : Text :=
  ((t.dropWhile p).reverse.dropWhile p).reverse

/-- What is left of a text once the characters of a class are taken off its end. -/
def trimEnd (p : Char → Bool) (t : Text) : Text := (t.reverse.dropWhile p).reverse

end Text

end LosslessScanner
