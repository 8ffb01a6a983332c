import LosslessScanner.Log.Record
import LosslessScanner.Proofs.Reading
import LosslessScanner.Session

/-!
# Reading comes to an end

The library takes the tokens of a text by recursion on its characters, which
ends by itself. A program that reads a source has a loop instead. It asks for
the next token until there is none, and nothing in the loop says that this will
happen. It does because a token takes at least one character with it, whatever
rule it comes from, so there are no more tokens to come than characters left.

That makes a budget for any loop: one read for each of these characters, and one
that finds the end. A loop is written here with the number of reads that it may
make, and has no answer if these do not suffice (`loop`). What it answers does
not depend on the budget, and there is an answer exactly if the budget exceeds
the number of tokens to come (`loop_eq`). So the four things that are done by
reading a text to its end are done within that budget, and come out as the
recursion has them.
-/

namespace LosslessScanner

namespace Cursor

/-! ## One step -/

/-- The tokens that are still to come, without the mark. -/
def items (c : Cursor) : List LocatedToken :=
  Token.locate c.position (LosslessScanner.scan c.remainder)

/-- The cursor at the end of the source. -/
def finish (c : Cursor) : Cursor := ⟨c.source, []⟩

theorem length_items (c : Cursor) : c.items.length = c.count := by
  rw [← List.length_map (f := LocatedToken.token), items, Token.map_token_locate, count]

/-- At the end there is no next token, and asking for it does nothing. -/
theorem next_of_eq_nil {c : Cursor} (h : c.remainder = []) :
    c.next = (none, c) ∧ c.items = [] ∧ c.finish = c := by
  obtain ⟨delivered, remainder⟩ := c
  obtain rfl : remainder = [] := h
  simp [next, nextToken, read, peek, advance, Token.endOfFile, items, Token.locate, finish, source]

/-- Anywhere else the next token is the first of those to come. It takes characters with it, and
leaves the others. -/
theorem next_of_ne_nil {c : Cursor} (h : c.remainder ≠ []) :
    ∃ t, c.next.1 = some t ∧ c.items = t :: c.next.2.items ∧ t.token.contents ≠ [] ∧
      c.remainder = t.token.contents ++ c.next.2.remainder ∧ c.next.2.finish = c.finish := by
  obtain ⟨d, rest, hrest⟩ := List.exists_cons_of_ne_nil h
  have hpeek : c.peek = Token.first d rest := by rw [peek, hrest]
  have hwf : c.peek.WellFormed := hpeek ▸ Token.wellFormed_first d rest
  have hnext : c.next = (some ⟨c.peek, ⟨c.position, c.read.2.position⟩⟩, c.read.2) := by
    simp only [next, nextToken]
    exact congrArg (·, c.read.2) (if_neg hwf.kind_ne)
  have hscan : LosslessScanner.scan c.remainder =
      c.peek :: LosslessScanner.scan c.read.2.remainder := by
    rw [read, advance, hpeek, hrest, Token.drop_length_contents_first, scan_cons]
  rw [hnext]
  refine ⟨_, rfl, ?_, hwf.ne_nil, c.contents_peek_append.symm, ?_⟩
  · simp only [items, hscan, Token.locate, position_read]
  · rw [finish, source_read, finish]

theorem count_of_ne_nil {c : Cursor} (h : c.remainder ≠ []) : c.count = c.next.2.count + 1 := by
  obtain ⟨t, -, hitems, -⟩ := next_of_ne_nil h
  rw [← length_items, hitems, List.length_cons, length_items]

theorem count_of_eq_nil {c : Cursor} (h : c.remainder = []) : c.count = 0 := by
  rw [← length_items, (next_of_eq_nil h).2.1, List.length_nil]

/-! ## Steps one after the other -/

/-- The iterator yields so many tokens more: each step yields one until these are used up, and no
step does after that. -/
def Yields (c : Cursor) (k : Nat) : Prop :=
  ∀ n, (c.deliveries (List.replicate n .next)).length = min n k

theorem yields_count (c : Cursor) : c.Yields c.count := by
  intro n
  induction n generalizing c with
  | zero => rw [Nat.zero_min, List.replicate_zero, deliveries_nil, List.length_nil]
  | succ n ih =>
      rw [List.replicate_succ, deliveries_cons, List.length_append]
      show (delivery? .next (.located c.next.1)).toList.length +
        (c.next.2.deliveries (List.replicate n .next)).length = _
      rw [ih]
      by_cases h : c.remainder = []
      · rw [(next_of_eq_nil h).1, count_of_eq_nil h, Nat.min_zero, Nat.min_zero]
        rfl
      · obtain ⟨t, ht, -⟩ := next_of_ne_nil h
        rw [ht, count_of_ne_nil h]
        show 1 + min n _ = min (n + 1) _
        omega

/-- A token takes at least one character. -/
theorem count_le_length (c : Cursor) : c.count ≤ c.remainder.length := by
  induction hn : c.remainder.length using Nat.strongRecOn generalizing c with
  | ind n ih =>
      by_cases h : c.remainder = []
      · rw [count_of_eq_nil h]
        exact Nat.zero_le _
      · obtain ⟨t, -, -, hne, hremainder, -⟩ := next_of_ne_nil h
        have hpos := List.length_pos_iff.2 hne
        have hlength := congrArg List.length hremainder
        rw [List.length_append, hn] at hlength
        have hrest := ih _ (by omega) c.next.2 rfl
        rw [count_of_ne_nil h]
        omega

/-! ## Loops -/

section Loop

variable {α : Type}

/-- A loop over the tokens to come that makes so many reads at most: what it has made of them, and
where it has found the end. It has no answer if it would have to go on reading. -/
def loop (body : α → LocatedToken → α) : Nat → α → Cursor → Option (α × Cursor)
  | 0, _, _ => none
  | reads + 1, made, c =>
    match c.next with
    | (none, after) => some (made, after)
    | (some t, after) => loop body reads (body made t) after

/-- A loop makes one read for each token to come and one that finds the end, and needs no more. -/
theorem loop_eq (body : α → LocatedToken → α) (reads : Nat) (made : α) (c : Cursor) :
    loop body reads made c =
      if c.count < reads then some (c.items.foldl body made, c.finish) else none := by
  induction reads generalizing made c with
  | zero => rfl
  | succ reads ih =>
      rw [loop]
      by_cases h : c.remainder = []
      · obtain ⟨hnext, hitems, hfinish⟩ := next_of_eq_nil h
        rw [hnext, hitems, hfinish, count_of_eq_nil h, if_pos (Nat.succ_pos _)]
        rfl
      · obtain ⟨t, hnext, hitems, -, -, hfinish⟩ := next_of_ne_nil h
        have hpair : c.next = (some t, c.next.2) := Prod.ext hnext rfl
        rw [hpair]
        show loop body reads (body made t) c.next.2 = _
        simp only [ih, hitems, hfinish, count_of_ne_nil h, List.foldl_cons,
          Nat.add_lt_add_iff_right]

/-- As many reads as there are characters left, and one more, are enough. -/
theorem loop_of_length (body : α → LocatedToken → α) (made : α) (c : Cursor) :
    loop body (c.remainder.length + 1) made c = some (c.items.foldl body made, c.finish) := by
  rw [loop_eq, if_pos (Nat.lt_succ_of_le c.count_le_length)]

end Loop

/-- The loop that puts together what each token gives. -/
def gather {α : Type} (f : LocatedToken → List α) (reads : Nat) (c : Cursor) :
    Option (List α × Cursor) :=
  loop (fun made t => made ++ f t) reads [] c

theorem gather_of_length {α : Type} (f : LocatedToken → List α) (c : Cursor) :
    gather f (c.remainder.length + 1) c = some (c.items.flatMap f, c.finish) := by
  rw [gather, loop_of_length, List.foldl_append_eq_append, List.nil_append, List.flatMap_def]

/-! ## What is read to its end -/

/-- `Cursor.tokens` as a loop that makes so many reads at most: each token as it is read, and the
mark where the end is found. -/
def tokensWithin (reads : Nat) (c : Cursor) : Option (List LocatedToken) :=
  (gather (fun t => [t]) reads c).map fun (ts, after) =>
    ts ++ [⟨Token.endOfFile, ⟨after.position, after.position⟩⟩]

theorem tokensWithin_of_length (c : Cursor) :
    c.tokensWithin (c.remainder.length + 1) = some c.tokens := by
  have hstop : c.finish.position = c.position + c.remainder.byteSize := by
    rw [finish, source, position, position, Text.byteSize_append]
  have htokens : c.tokens =
      c.items ++ [⟨Token.endOfFile, ⟨c.finish.position, c.finish.position⟩⟩] := by
    rw [tokens, scanAt, Token.locate_append, text_scan, ← hstop]
    rfl
  rw [tokensWithin, gather_of_length, htokens, List.flatMap_singleton']
  rfl

end Cursor

/-- `scan` as such a loop. It keeps the tokens without their places. -/
def scanWithin (reads : Nat) (source : Text) : Option (List Token) :=
  (Cursor.gather (fun t => [t.token]) reads (Cursor.start source)).map Prod.fst

theorem scanWithin_of_length (source : Text) :
    scanWithin (source.length + 1) source = some (scan source) := by
  have htokens : (Cursor.start source).items.flatMap (fun t => [t.token]) = scan source := by
    rw [← List.map_eq_flatMap]
    exact Token.map_token_locate 0 (scan source)
  exact (congrArg (Option.map Prod.fst) (Cursor.gather_of_length _ (Cursor.start source))).trans
    (congrArg some htokens)

/-- `echo` as such a loop. -/
def echoWithin (reads : Nat) (line : Text) : Option Text :=
  (Cursor.gather (fun t => t.token.display ++ [',', ' ']) reads (Cursor.start line)).map Prod.fst

theorem echoWithin_of_length (line : Text) :
    echoWithin (line.length + 1) line = some (echo line) := by
  have hecho : (Cursor.start line).items.flatMap (fun t => t.token.display ++ [',', ' ']) =
      echo line := by
    rw [echo, ← Token.map_token_locate 0 (scan line), List.flatMap_map]
    rfl
  exact (congrArg (Option.map Prod.fst) (Cursor.gather_of_length _ (Cursor.start line))).trans
    (congrArg some hecho)

namespace Session

/-- A report with what there is to say of one token. -/
def note (r : Report) (t : LocatedToken) : Report :=
  match t.token.kind with
  | .undefined => r.addError (finding ⟨.undefinedToken t.token.contents, t.span⟩)
  | .integer | .float64 =>
    match t.literal? with
    | .error e => r.addWarning (finding e)
    | .ok _ => r
  | _ => r

/-- `Session.inspect` as such a loop. -/
def inspectWithin (reads : Nat) (source : Text) : Option Report :=
  (Cursor.loop note reads Report.empty (Cursor.start source)).map Prod.fst

theorem note_eq (r : Report) (t : LocatedToken) :
    note r t = ⟨r.errors ++ (errorOf? t).toList.map finding,
      r.warnings ++ (warningOf? t).toList.map finding⟩ := by
  rw [note, errorOf?, warningOf?]
  cases hk : t.token.kind with
  | integer | float64 =>
      cases t.literal? with
      | error e => simp [Kind.isLiteral, Report.addWarning]
      | ok v => simp [Kind.isLiteral]
  | _ => simp [Kind.isLiteral, Report.addError]

theorem foldl_note (ts : List LocatedToken) (r : Report) :
    ts.foldl note r = ⟨r.errors ++ (ts.filterMap errorOf?).map finding,
      r.warnings ++ (ts.filterMap warningOf?).map finding⟩ := by
  induction ts generalizing r with
  | nil => simp
  | cons t ts ih =>
      simp only [List.foldl_cons, ih, note_eq, List.filterMap_eq_flatMap_toList, List.flatMap_cons,
        List.map_append, List.append_assoc]

theorem inspectWithin_of_length (source : Text) :
    inspectWithin (source.length + 1) source = some (inspect source) := by
  refine (congrArg (Option.map Prod.fst)
    (Cursor.loop_of_length note Report.empty (Cursor.start source))).trans ?_
  rw [foldl_note]
  rfl

end Session

/-! ## From any cursor -/

namespace Cursor

/-- A cursor is `k` tokens in front of the end. -/
structure Progress (c : Cursor) (k : Nat) : Prop where
  yields : c.Yields k
  count : c.step .count = (.number k, c)
  sizeHint : ∃ lower upper, c.step .sizeHint = (.bounds lower upper, c) ∧ lower ≤ k ∧ k ≤ upper
  le_length : k ≤ c.remainder.length
  atEnd : c.step .atEnd = (.flag (k = 0), c)
  next : ∀ t, (c.step .next).1 = .located (some t) →
    t.token.contents ≠ [] ∧ c.remainder = t.token.contents ++ (c.step .next).2.remainder ∧
      ∃ j, k = j + 1 ∧ (c.step .next).2.Yields j
  reads : (Log.ofStep c .tokens).length = k + 1
  tokens : c.tokensWithin (c.remainder.length + 1) = some c.tokens

theorem count_eq_zero_iff (c : Cursor) : c.count = 0 ↔ c.remainder = [] := by
  constructor
  · intro hzero
    by_contra h
    rw [count_of_ne_nil h] at hzero
    exact Nat.succ_ne_zero _ hzero
  · exact count_of_eq_nil

theorem progress_count (c : Cursor) : Progress c c.count where
  yields := c.yields_count
  count := rfl
  sizeHint := by
    refine ⟨_, _, rfl, ?_, ?_⟩
    · by_cases h : c.remainder = []
      · simp [Cursor.sizeHint, h]
      · have hpos := Nat.pos_of_ne_zero (mt c.count_eq_zero_iff.1 h)
        have hbytes := mt Text.byteSize_eq_zero_iff.1 h
        show (if c.remainder.byteSize = 0 then 0 else 1) ≤ c.count
        rw [if_neg hbytes]
        exact hpos
    · exact Nat.le_trans c.count_le_length (Text.length_le_byteSize _)
  le_length := c.count_le_length
  atEnd := by
    rw [step, Cursor.atEnd]
    congr 2
    rw [Bool.eq_iff_iff, List.isEmpty_iff, decide_eq_true_eq, count_eq_zero_iff]
  next := by
    intro t ht
    by_cases h : c.remainder = []
    · simp [step, (next_of_eq_nil h).1] at ht
    · obtain ⟨u, hnext, -, hne, hremainder, -⟩ := next_of_ne_nil h
      obtain rfl : u = t := by simpa [step, hnext] using ht
      exact ⟨hne, hremainder, c.next.2.count, count_of_ne_nil h, c.next.2.yields_count⟩
  reads := by
    rw [Log.ofStep, Log.reading, List.length_map, ← List.length_map (f := LocatedToken.token),
      scanAt, Token.map_token_locate, List.length_append, Cursor.count]
    rfl
  tokens := c.tokensWithin_of_length

/-- Reading comes to an end. Wherever a cursor has come to in a source, it has so many tokens to
yield, no more than there are characters left and within the bounds of its hint; none if and only
if it is at the end; and with each that it yields it has one less, and some characters less. So
whoever reads to the end, for the tokens, a report or an echo, has made at most one read for each
character and one more. -/
theorem progress_after (source : Text) (ops : List Operation) :
    (∃ k, Progress ((start source).after ops) k) ∧
      scanWithin (source.length + 1) source = some (scan source) ∧
      Session.inspectWithin (source.length + 1) source = some (Session.inspect source) ∧
      echoWithin (source.length + 1) source = some (echo source) :=
  ⟨⟨_, progress_count _⟩, scanWithin_of_length source, Session.inspectWithin_of_length source,
    echoWithin_of_length source⟩

end Cursor

end LosslessScanner
