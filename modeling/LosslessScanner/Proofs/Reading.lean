import Mathlib.Data.List.Forall2
import LosslessScanner.Proofs.Spans
import LosslessScanner.Scan.Cursor

/-!
# Reading in any order

A cursor can be read, stepped like an iterator, peeked into and asked about
what is to come, in any order. Whatever the order, it behaves like a finger in
one list: the full scan of its source, made once from the start. The tokens
before the finger have been delivered, each by one of the three steps that
deliver, and every answer is read off the tokens behind it.

A cursor never sees that list. It has the remainder of the source and scans
that anew for every question, so the invariant (`Between`) has to say that the
remainder scans to what the full scan has left. It does because a scan is
determined by the text in front of it alone: the tail of a scan is the scan of
the tail.
-/

namespace LosslessScanner

namespace Cursor

/-! ## Histories -/

def after (c : Cursor) (ops : List Operation) : Cursor :=
  ((c.run ops).getLast?.map Prod.snd).getD c

@[simp] theorem after_nil (c : Cursor) : c.after [] = c := rfl

@[simp] theorem after_cons (c : Cursor) (op : Operation) (ops : List Operation) :
    c.after (op :: ops) = (c.step op).2.after ops := by
  simp only [after, run, List.getLast?_cons]
  cases (run (c.step op).2 ops).getLast? with
  | none => rfl
  | some s => rfl

/-- A token that a step has delivered, with its span if the step gave one. -/
structure Delivery where
  token : Token
  span : Option Span
  deriving DecidableEq

/-- What a step has delivered: reading gives the token alone, the two others
give the span as well. The mark at the end is no delivery, however often it is
read. -/
def delivery? : Operation → Answer → Option Delivery
  | .read, .token t => if t.kind = .endOfFile then none else some ⟨t, none⟩
  | .nextToken, .located (some t) => some ⟨t.token, some t.span⟩
  | .next, .located (some t) => some ⟨t.token, some t.span⟩
  | _, _ => none

def deliveries (c : Cursor) (ops : List Operation) : List Delivery :=
  (ops.zip (c.run ops)).filterMap fun s => delivery? s.1 s.2.1

@[simp] theorem deliveries_nil (c : Cursor) : c.deliveries [] = [] := rfl

@[simp] theorem deliveries_cons (c : Cursor) (op : Operation) (ops : List Operation) :
    c.deliveries (op :: ops) =
      (delivery? op (c.step op).1).toList ++ (c.step op).2.deliveries ops := by
  simp only [deliveries, run, List.zip_cons_cons, List.filterMap_cons]
  cases delivery? op (c.step op).1 with
  | none => rfl
  | some d => rfl

/-- A delivery is a token of the full scan; a span that was given is the right one. -/
def Delivery.IsOf (d : Delivery) (t : LocatedToken) : Prop :=
  d.token = t.token ∧ ∀ s ∈ d.span, s = t.span

/-! ## The invariant -/

/-- The cursor stands in its source between the tokens `done`, which have been
delivered, and the tokens `todo`, which have not. The last field is the one
that the steps need: what is left scans to what the full scan has left. -/
structure Between (source : Text) (done todo : List Token) (c : Cursor) : Prop where
  cut : done ++ todo = LosslessScanner.scan source
  delivered : c.delivered = Token.text done
  remainder : c.remainder = Token.text todo
  scan : LosslessScanner.scan c.remainder = todo

theorem between_start (source : Text) :
    Between source [] (LosslessScanner.scan source) (start source) where
  cut := rfl
  delivered := rfl
  remainder := (text_scan source).symm
  scan := rfl

namespace Between

variable {source : Text} {done todo : List Token} {c : Cursor}

theorem source_eq (h : Between source done todo c) : c.source = source := by
  rw [Cursor.source, h.delivered, h.remainder, ← Token.text_append, h.cut, text_scan]

theorem position_eq (h : Between source done todo c) :
    c.position = (Token.text done).byteSize := by
  rw [position, h.delivered]

theorem kind_ne {t : Token} (h : Between source done todo c) (ht : t ∈ done ++ todo) :
    t.kind ≠ .endOfFile := by
  rw [h.cut] at ht
  exact (wellFormed_of_mem_scan ht).kind_ne

/-- With nothing left to deliver, reading delivers the mark and stays. -/
theorem read_nil (h : Between source done [] c) : c.read = (Token.endOfFile, c) := by
  obtain ⟨delivered, remainder⟩ := c
  obtain rfl : remainder = [] := h.remainder
  simp [read, peek, advance, Token.endOfFile]

theorem peek_cons {t : Token} {ts : List Token} (h : Between source done (t :: ts) c) :
    c.peek = t := by
  obtain ⟨delivered, remainder⟩ := c
  cases remainder with
  | nil => exact absurd h.scan (by simp)
  | cons d rest =>
      have hscan := h.scan
      rw [scan_cons] at hscan
      exact (List.cons.inj hscan).1

/-- Reading moves one token from what is to come to what is done. -/
theorem read_cons {t : Token} {ts : List Token} (h : Between source done (t :: ts) c) :
    Between source (done ++ [t]) ts c.read.2 := by
  have hpeek := h.peek_cons
  have hremainder := h.remainder
  rw [Token.text_cons] at hremainder
  have hrest : c.read.2.remainder = Token.text ts := by
    rw [read, advance, hpeek, hremainder, List.drop_left]
  refine ⟨?_, ?_, hrest, ?_⟩
  · rw [List.append_assoc, List.singleton_append, h.cut]
  · rw [read, advance, hpeek, h.delivered, Token.text_append]
    simp
  · obtain ⟨delivered, remainder⟩ := c
    cases remainder with
    | nil => exact absurd h.scan (by simp)
    | cons d rest =>
        have hscan := h.scan
        rw [scan_cons, ← Token.drop_length_contents_first] at hscan
        exact (List.cons.inj hscan).2

/-- One step delivers the tokens `new`, of which there is at most one, and the
cursor stands behind them. -/
theorem step (h : Between source done todo c) (op : Operation) :
    ∃ new rest, todo = new ++ rest ∧ Between source (done ++ new) rest (c.step op).2 ∧
      List.Forall₂ Delivery.IsOf (delivery? op (c.step op).1).toList
        (Token.locate c.position new) := by
  have still : Between source (done ++ []) todo c := by rwa [List.append_nil]
  cases op with
  | peek | remainder | source | atEnd | sizeHint | tokens | significant | count =>
      exact ⟨[], todo, rfl, still, .nil⟩
  | read =>
      cases todo with
      | nil =>
          refine ⟨[], [], rfl, ?_, ?_⟩
          · simpa [Cursor.step, h.read_nil] using still
          · simp [Cursor.step, h.read_nil, delivery?, Token.endOfFile, Token.locate]
      | cons t ts =>
          refine ⟨[t], ts, rfl, h.read_cons, ?_⟩
          have hkind := h.kind_ne (t := t) (by simp)
          have hread : c.read.1 = t := h.peek_cons
          simp only [Cursor.step, hread, delivery?, if_neg hkind, Option.toList, Token.locate]
          exact .cons ⟨rfl, fun s hs => absurd hs (by simp)⟩ .nil
  | nextToken | next =>
      cases todo with
      | nil =>
          refine ⟨[], [], rfl, ?_, ?_⟩
          · simpa [Cursor.step, next, nextToken, h.read_nil] using still
          · simp [Cursor.step, next, nextToken, h.read_nil, delivery?, Token.endOfFile,
              Token.locate]
      | cons t ts =>
          refine ⟨[t], ts, rfl, h.read_cons, ?_⟩
          have hkind := h.kind_ne (t := t) (by simp)
          have hread : c.read.1 = t := h.peek_cons
          have hstop : c.read.2.position = c.position + t.size := by
            rw [position_read, h.peek_cons]
          simp only [Cursor.step, next, nextToken, hread, if_neg hkind, delivery?,
            Option.toList, Token.locate, hstop]
          exact .cons ⟨rfl, fun s hs => by simpa using hs.symm⟩ .nil

/-- A sequence of steps delivers the next tokens, in order. -/
theorem run (h : Between source done todo c) (ops : List Operation) :
    ∃ new rest, todo = new ++ rest ∧ Between source (done ++ new) rest (c.after ops) ∧
      List.Forall₂ Delivery.IsOf (c.deliveries ops) (Token.locate c.position new) := by
  induction ops generalizing done todo c with
  | nil => exact ⟨[], todo, rfl, by simpa using h, .nil⟩
  | cons op ops ih =>
      obtain ⟨new, rest, rfl, hstep, hnew⟩ := h.step op
      obtain ⟨more, last, rfl, hrun, hmore⟩ := ih hstep
      refine ⟨new ++ more, last, by rw [List.append_assoc], ?_, ?_⟩
      · rw [after_cons, ← List.append_assoc]
        exact hrun
      · rw [deliveries_cons, Token.locate_append]
        rw [hstep.position_eq, Token.text_append, Text.byteSize_append, ← h.position_eq] at hmore
        exact List.rel_append hnew hmore

end Between

/-! ## What the cursor answers -/

/-- The cursor stands in the full scan of a source with `done` behind it, and
`t` is the first token that it has not delivered, which is the mark at the end
if nothing is left. Every answer is read off `t` and the tokens `later`. -/
structure Stands (source : Text) (done : List LocatedToken) (t : LocatedToken)
    (later : List LocatedToken) (c : Cursor) : Prop where
  scan : done ++ t :: later = scanFile source
  mark : t.token.kind = .endOfFile ↔ later = []
  no_mark : ∀ u ∈ done, u.token.kind ≠ .endOfFile
  start : t.span.start = c.position
  le : c.position ≤ source.byteSize
  boundary : String.Pos.Raw.IsValid (String.ofList source) ⟨c.position⟩
  peek : c.step .peek = (.token t.token, c)
  read : (c.step .read).1 = .token t.token
  nextToken : (c.step .nextToken).1 = .located (if later = [] then none else some t)
  next : c.step .next = c.step .nextToken
  read_position : (c.step .read).2.position = c.position + t.token.size
  nextToken_cursor : (c.step .nextToken).2 = (c.step .read).2
  source_eq : c.step .source = (.text source, c)
  remainder : ∃ rest, c.step .remainder = (.text rest, c) ∧
    rest.utf8Encode = source.utf8Encode.extract c.position source.byteSize
  atEnd : c.step .atEnd = (.flag later.isEmpty, c)
  sizeHint : c.step .sizeHint =
    (.bounds (if later = [] then 0 else 1) (source.byteSize - c.position), c)
  tokens : c.step .tokens = (.list (t :: later), c)
  significant : c.step .significant =
    (.list ((t :: later).filter fun u =>
      !u.token.kind.isTrivia && u.token.kind ≠ .endOfFile), c)
  count : c.step .count = (.number later.length, c)
  exhausted : later = [] → ∀ ops, c.after ops = c ∧ c.deliveries ops = []

namespace Between

variable {source : Text} {done todo : List Token} {c : Cursor}

theorem scanFile_eq (h : Between source done todo c) :
    scanFile source =
      Token.locate 0 done ++ Token.locate c.position (todo ++ [Token.endOfFile]) := by
  rw [scanFile, scanAt, ← h.cut, List.append_assoc, Token.locate_append, Nat.zero_add,
    ← h.position_eq]

theorem remainder_bytes (h : Between source done todo c) :
    c.remainder.utf8Encode = source.utf8Encode.extract c.position source.byteSize := by
  rw [← h.source_eq, Cursor.source, position]
  exact (Text.extract_utf8Encode_right c.delivered c.remainder).symm

theorem exhausted (h : Between source done [] c) (ops : List Operation) :
    c.after ops = c ∧ c.deliveries ops = [] := by
  have hstep : ∀ op, (c.step op).2 = c ∧ delivery? op (c.step op).1 = none := by
    intro op
    cases op with
    | read => simp [Cursor.step, h.read_nil, delivery?, Token.endOfFile]
    | nextToken | next =>
        simp [Cursor.step, Cursor.next, Cursor.nextToken, h.read_nil, delivery?,
          Token.endOfFile]
    | _ => exact ⟨rfl, rfl⟩
  induction ops with
  | nil => exact ⟨rfl, rfl⟩
  | cons op ops ih => rw [after_cons, deliveries_cons, (hstep op).1, (hstep op).2]; exact ih

/-- The tokens to come that a parser reads, out of the list that ends with the mark. -/
theorem significant_eq (h : Between source done todo c) :
    c.significant =
      (Token.locate c.position (todo ++ [Token.endOfFile])).filter fun u =>
        !u.token.kind.isTrivia && u.token.kind ≠ .endOfFile := by
  have hmark : (Token.locate (c.position + (Token.text todo).byteSize)
      [Token.endOfFile]).filter (fun u =>
        !u.token.kind.isTrivia && u.token.kind ≠ .endOfFile) = [] := rfl
  rw [Cursor.significant, significantAt, h.scan, Token.locate_append, List.filter_append,
    hmark, List.append_nil]
  refine List.filter_congr fun u hu => ?_
  have hkind := h.kind_ne (List.mem_append_right done (Token.token_mem_of_mem_locate hu))
  simp [hkind]

theorem remainder_eq_nil_iff (h : Between source done todo c) :
    c.remainder = [] ↔ todo = [] := by
  constructor
  · intro hnil
    have hscan := h.scan
    rwa [hnil, scan_nil, eq_comm] at hscan
  · rintro rfl
    exact h.remainder

/-- The list that the answers are read off begins with the next token. -/
theorem exists_locate_eq (h : Between source done todo c) :
    ∃ later, Token.locate c.position (todo ++ [Token.endOfFile]) =
        ⟨c.peek, ⟨c.position, c.position + c.peek.size⟩⟩ :: later ∧
      later.length = todo.length ∧ (c.peek.kind = .endOfFile ↔ todo = []) := by
  cases todo with
  | nil =>
      have hpeek : c.peek = Token.endOfFile := congrArg Prod.fst h.read_nil
      rw [hpeek]
      exact ⟨[], rfl, rfl, by simp [Token.endOfFile]⟩
  | cons t ts =>
      rw [h.peek_cons]
      refine ⟨Token.locate (c.position + t.size) (ts ++ [Token.endOfFile]), rfl, ?_, ?_⟩
      · rw [← List.length_map (f := LocatedToken.token), Token.map_token_locate]
        simp
      · simp [h.kind_ne (t := t) (by simp)]

theorem stands (h : Between source done todo c) :
    ∃ t later, Stands source (Token.locate 0 done) t later c := by
  obtain ⟨later, hlocate, hlength, hkind⟩ := h.exists_locate_eq
  have hsource : c.delivered ++ c.remainder = source := h.source_eq
  have hleft : c.position + c.remainder.byteSize = source.byteSize := by
    rw [← hsource, position, Text.byteSize_append]
  have hlater : later = [] ↔ todo = [] := by
    rw [← List.length_eq_zero_iff, hlength, List.length_eq_zero_iff]
  have hempty := h.remainder_eq_nil_iff.trans hlater.symm
  refine ⟨⟨c.peek, c.position, c.position + c.peek.size⟩, later, ?_⟩
  exact {
    scan := by rw [h.scanFile_eq, hlocate]
    mark := by rw [hkind, hlater]
    no_mark := fun u hu =>
      h.kind_ne (List.mem_append_left todo (Token.token_mem_of_mem_locate hu))
    start := rfl
    le := by omega
    boundary := hsource ▸ Text.isValid_byteSize c.delivered c.remainder
    peek := rfl
    read := rfl
    nextToken := by
      have hstop := c.position_read
      simp only [Cursor.read] at hstop
      simp only [Cursor.step, Cursor.nextToken, Cursor.read, hstop, hkind, hlater]
    next := rfl
    read_position := c.position_read
    nextToken_cursor := rfl
    source_eq := by rw [Cursor.step, h.source_eq]
    remainder := ⟨c.remainder, rfl, h.remainder_bytes⟩
    atEnd := by
      rw [Cursor.step, Cursor.atEnd]
      congr 2
      rw [Bool.eq_iff_iff, List.isEmpty_iff, List.isEmpty_iff, hempty]
    sizeHint := by
      have hzero := Text.byteSize_eq_zero_iff.trans hempty
      have hbytes : source.byteSize - c.position = c.remainder.byteSize := by omega
      simp only [Cursor.step, Cursor.sizeHint, hbytes, hzero]
    tokens := by rw [Cursor.step, Cursor.tokens, scanAt, h.scan, hlocate]
    significant := by rw [Cursor.step, h.significant_eq, hlocate]
    count := by rw [Cursor.step, Cursor.count, h.scan, hlength]
    exhausted := fun hnil => by
      obtain rfl := hlater.1 hnil
      exact h.exhausted }

end Between

/-- Whatever has been asked before, the tokens delivered are the front of the
full scan, in order and with their spans where these were given, and the cursor
stands right behind them. -/
theorem stands_after (source : Text) (ops : List Operation) :
    ∃ done t later,
      List.Forall₂ Delivery.IsOf ((Cursor.start source).deliveries ops) done ∧
        Stands source done t later ((Cursor.start source).after ops) := by
  obtain ⟨new, rest, -, hrun, hnew⟩ := (between_start source).run ops
  obtain ⟨t, later, hstands⟩ := hrun.stands
  exact ⟨_, t, later, hnew, hstands⟩

end Cursor

end LosslessScanner
