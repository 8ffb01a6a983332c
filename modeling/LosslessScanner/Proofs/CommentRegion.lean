import LosslessScanner.Proofs.Spans

/-!
# Where comments are

Whether a character stands in a comment can be told from the characters in
front of it, without scanning: there is a `#` in its line from which on nothing
ends the line, and that `#` is not part of a run of symbols, because no symbol
stands right in front of it.

The scanner does not look back. It takes a `#` for a comment if a token begins
there, so the two agree only if token boundaries can be told from neighbouring
characters. For a `#` they can. If a symbol is in front of it, the token of
that symbol would have gone on to take it in (`stopsAt_symbol`), so no token
begins there. And if none is, then the `#` is not inside a token that is no
comment, since such a token is a run of symbols and does not begin with a `#`
(`exists_symbol_of_hash`). What remains is a `#` inside an earlier comment, and
that comment has ended with its line.

The argument is about tokens and the text in front of them. At the end it is
said of spans, which is how the scanner shows its comments: a byte is in the
span of one token only, so the comment that a position is in is the token that
has its character (`inComment_iff`).
-/

namespace LosslessScanner

/-- The character at position `p` lies in a comment region: some `#` up to there has no line end
behind it up to there, and is the first character or has no symbol in front of it. -/
def CommentRegion (s : Text) (p : Nat) : Prop :=
  ∃ q, q ≤ p ∧ s[q]? = some '#' ∧ (∀ d ∈ (s.take (p + 1)).drop q, isLineEnd d = false) ∧
    ∀ d ∈ (s.take q).getLast?, isSymbol d = false

instance (s : Text) (p : Nat) : Decidable (CommentRegion s p) :=
  inferInstanceAs (Decidable (∃ q, q ≤ p ∧ _))

/-- The region in terms of what is in front of the character. -/
theorem commentRegion_append_iff {front back : Text} {c : Char} :
    CommentRegion (front ++ c :: back) front.length ↔
      ∃ u v, front ++ [c] = u ++ '#' :: v ∧ (∀ d ∈ v, isLineEnd d = false) ∧
        ∀ d ∈ u.getLast?, isSymbol d = false := by
  have hs : front ++ c :: back = (front ++ [c]) ++ back := by simp
  have hlength : (front ++ [c]).length = front.length + 1 := by simp
  have htake : (front ++ c :: back).take (front.length + 1) = front ++ [c] := by
    rw [hs, ← hlength, List.take_left]
  rw [CommentRegion, htake]
  constructor
  · rintro ⟨q, hq, hash, hends, hlast⟩
    have hlt : q < (front ++ [c]).length := by omega
    rw [hs, List.getElem?_append_left hlt] at hash
    rw [hs, List.take_append_of_le_length (Nat.le_of_lt hlt)] at hlast
    obtain ⟨_, hget⟩ := List.getElem?_eq_some_iff.1 hash
    have hdrop : (front ++ [c]).drop q = '#' :: (front ++ [c]).drop (q + 1) := by
      rw [List.drop_eq_getElem_cons hlt, hget]
    refine ⟨(front ++ [c]).take q, (front ++ [c]).drop (q + 1), ?_, ?_, hlast⟩
    · rw [← hdrop, List.take_append_drop]
    · intro d hd
      rw [hdrop] at hends
      exact hends d (List.mem_cons_of_mem _ hd)
  · rintro ⟨u, v, hf, hends, hlast⟩
    have hu : u.length ≤ front.length := by
      have := congrArg List.length hf
      simp only [List.length_append, List.length_cons, List.length_nil] at this
      omega
    refine ⟨u.length, hu, ?_, ?_, ?_⟩
    · rw [hs, hf, List.append_assoc, List.getElem?_append_right (Nat.le_refl _), Nat.sub_self]
      rfl
    · intro d hd
      rw [hf, List.drop_left] at hd
      rcases List.mem_cons.1 hd with rfl | hd
      · rfl
      · exact hends d hd
    · rw [hs, hf, List.append_assoc, List.take_left]
      exact hlast

/-! ## What a `#` says about its token -/

theorem not_symbol_of_letter {c : Char} (h : isLetter c) : isSymbol c = false := by
  simp [isSymbol, h]

theorem not_symbol_of_digit {c : Char} (h : isDigit c) : isSymbol c = false := by
  simp [isSymbol, h]

theorem not_symbol_of_blank {c : Char} (h : isBlank c) : isSymbol c = false := by
  simp [isSymbol, h]

theorem not_symbol_of_delimiter {c : Char} (h : isDelimiter c) : isSymbol c = false := by
  simp [isSymbol, h]

theorem not_symbol_of_control {c : Char} (h : isControl c) : isSymbol c = false := by
  simp [isSymbol, h]

theorem not_lineEnd_of_symbol {c : Char} (h : isSymbol c) : isLineEnd c = false := by
  refine Bool.eq_false_iff.2 fun hline => ?_
  rw [not_symbol_of_blank (blank_of_lineEnd hline)] at h
  exact Bool.noConfusion h

namespace Token

/-- The kinds of token that have symbols in them. -/
theorem WellFormed.kind_of_symbol {t : Token} (h : t.WellFormed) {d : Char}
    (hd : d ∈ t.contents) (hsymbol : isSymbol d) :
    t.kind = .comment ∨ t.kind = .operator ∨ t = ⟨.eq, ['=']⟩ ∨ t = ⟨.dot, ['.']⟩ ∨
      (t.kind = .float64 ∧ d = '.') := by
  have absurd_of (hno : isSymbol d = false) {p : Prop} : p := by
    rw [hno] at hsymbol
    exact Bool.noConfusion hsymbol
  cases h with
  | whitespace _ blank => exact absurd_of (not_symbol_of_blank (blank d hd))
  | comment _ _ _ => exact Or.inl rfl
  | identifier letter tail _ =>
      rcases List.mem_cons.1 hd with rfl | hd
      · exact absurd_of (not_symbol_of_letter letter)
      · rcases tail d hd with hletter | hdigit
        · exact absurd_of (not_symbol_of_letter hletter)
        · exact absurd_of (not_symbol_of_digit hdigit)
  | keyword key =>
      obtain ⟨c, w, rfl, letter, letters⟩ := Vocabulary.letters_of_mem key
      rcases List.mem_cons.1 hd with rfl | hd
      · exact absurd_of (not_symbol_of_letter letter)
      · exact absurd_of (not_symbol_of_letter (letters d hd))
  | integer _ digit => exact absurd_of (not_symbol_of_digit (digit d hd))
  | float whole _ fraction =>
      rcases List.mem_append.1 hd with hd | hd
      · exact absurd_of (not_symbol_of_digit (whole d hd))
      rcases List.mem_cons.1 hd with rfl | hd
      · exact Or.inr (Or.inr (Or.inr (Or.inr ⟨rfl, rfl⟩)))
      · exact absurd_of (not_symbol_of_digit (fraction d hd))
  | semicolon | comma | leftParen | rightParen =>
      obtain rfl := List.mem_singleton.1 hd
      exact absurd_of (not_symbol_of_delimiter rfl)
  | eq => exact Or.inr (Or.inr (Or.inl rfl))
  | dot => exact Or.inr (Or.inr (Or.inr (Or.inl rfl)))
  | operator _ _ _ _ _ => exact Or.inr (Or.inl rfl)
  | undefined control _ =>
      obtain rfl := List.mem_singleton.1 hd
      exact absurd_of (not_symbol_of_control control)

/-- A `#` in a token that is no comment has a symbol in front of it in the same token. -/
theorem WellFormed.exists_symbol_of_hash {t : Token} (h : t.WellFormed) {x y : Text}
    (hc : t.contents = x ++ '#' :: y) (hk : t.kind ≠ .comment) :
    ∃ d ∈ x.getLast?, isSymbol d := by
  have hmem : '#' ∈ t.contents := by rw [hc]; simp
  rcases h.kind_of_symbol hmem isSymbol_hash with hk' | hk' | rfl | rfl | ⟨-, hpoint⟩
  · exact absurd hk' hk
  · obtain ⟨symbol, hash⟩ := h.symbols hk'
    rw [hc] at symbol hash
    rcases List.eq_nil_or_concat' x with rfl | ⟨u, d, rfl⟩
    · exact absurd rfl hash
    · exact ⟨d, List.getLast?_concat, symbol d (by simp)⟩
  · exact absurd hmem (by decide)
  · exact absurd hmem (by decide)
  · exact absurd hpoint (by decide)

/-- A token that ends with a symbol does not stop in front of a symbol. -/
theorem WellFormed.stopsAt_symbol {t : Token} (h : t.WellFormed) {d e : Char}
    (hd : d ∈ t.contents.getLast?) (hsymbol : isSymbol d) (he : isSymbol e) (r : Text) :
    t.kind.stopsAt (e :: r) = false := by
  rcases h.kind_of_symbol (List.mem_of_mem_getLast? hd) hsymbol with hk | hk | rfl | rfl | ⟨hk, -⟩
  · rw [hk, Kind.stopsAt, Text.begins_cons, not_lineEnd_of_symbol he]
    rfl
  · rw [hk, Kind.stopsAt, Text.begins_cons, he]
    rfl
  · rw [Kind.stopsAt, Text.begins_cons, he]
    rfl
  · rw [Kind.stopsAt, Text.begins_cons, he]
    rfl
  · obtain ⟨w, f, hc, -, ne, fraction⟩ := h.decimal hk
    obtain ⟨u, e, rfl⟩ := (List.eq_nil_or_concat' f).resolve_left ne
    rw [hc, ← List.cons_append, ← List.append_assoc, List.getLast?_concat] at hd
    obtain rfl := Option.some.inj hd
    rw [not_symbol_of_digit (fraction e (by simp))] at hsymbol
    exact Bool.noConfusion hsymbol

/-! ## Positions and tokens -/

/-- A character of a text is in one of the tokens that make it. -/
theorem exists_of_text_eq {ts : List Token} {u v : Text} {c : Char}
    (h : text ts = u ++ c :: v) :
    ∃ before t behind x y, ts = before ++ t :: behind ∧ t.contents = x ++ c :: y ∧
      u = text before ++ x ∧ v = y ++ text behind := by
  induction ts generalizing u with
  | nil => exact absurd h (by simp)
  | cons t ts ih =>
      rw [text_cons] at h
      rcases List.append_eq_append_iff.1 h with ⟨a, rfl, hts⟩ | ⟨a, ht, hv⟩
      · obtain ⟨before, t', behind, x, y, rfl, ht', rfl, rfl⟩ := ih hts
        exact ⟨t :: before, t', behind, x, y, rfl, ht', by simp, rfl⟩
      · cases a with
        | nil =>
            obtain ⟨before, t', behind, x, y, rfl, ht', hx, rfl⟩ := ih (u := []) hv.symm
            refine ⟨t :: before, t', behind, x, y, rfl, ht', ?_, rfl⟩
            rw [List.append_nil] at ht
            rw [text_cons, List.append_assoc, ← hx, List.append_nil, ht]
        | cons d a =>
            obtain ⟨rfl, rfl⟩ := List.cons.inj hv
            exact ⟨[], t, ts, u, a, rfl, ht, rfl, rfl⟩

theorem exists_of_mem_zipIdx {t : Text} {k p : Nat} {c : Char} (h : (c, p) ∈ t.zipIdx k) :
    ∃ x y, t = x ++ c :: y ∧ p = k + x.length := by
  obtain ⟨hle, hlt, hget⟩ := List.mem_zipIdx h
  have hlt' : p - k < t.length := by omega
  refine ⟨t.take (p - k), t.drop (p - k + 1), ?_, ?_⟩
  · rw [hget, ← List.drop_eq_getElem_cons hlt', List.take_append_drop]
  · rw [List.length_take]
    omega

/-- What is found token by token is found position by position, if the positions of each token
give what the token gives. -/
theorem filterMap_locate_eq {α : Type} {s : Text} {f : LocatedToken → Option α}
    {g : Char × Nat → Option α}
    (h : ∀ {before behind : List Token} {t : Token}, scan s = before ++ t :: behind →
      (t.contents.zipIdx (text before).length).filterMap g =
        (f ⟨t, ⟨(text before).byteSize, (text before).byteSize + t.size⟩⟩).toList)
    {before ts : List Token} (hts : scan s = before ++ ts) :
    (locate (text before).byteSize ts).filterMap f =
      ((text ts).zipIdx (text before).length).filterMap g := by
  induction ts generalizing before with
  | nil => rfl
  | cons t ts ih =>
      have hsplit : scan s = before ++ [t] ++ ts := by
        rw [hts, List.append_assoc]
        rfl
      have hrest := ih hsplit
      simp only [text_append, text_cons, text_nil, List.append_nil, Text.byteSize_append,
        List.length_append] at hrest
      rw [text_cons, List.zipIdx_append, List.filterMap_append, h hts, ← hrest, locate,
        List.filterMap_cons, size]
      cases f _ with
      | none => rfl
      | some e => rfl

/-- In front of a token that begins with a symbol there is no symbol. -/
theorem Maximal.not_symbol_of_symbol {before behind : List Token} {t : Token} {c : Char} {w : Text}
    (hwf : ∀ u ∈ before, u.WellFormed) (hmax : Maximal (before ++ t :: behind))
    (hc : t.contents = c :: w) (hsymbol : isSymbol c) :
    ∀ d ∈ (text before).getLast?, isSymbol d = false := by
  intro d hd
  rcases List.eq_nil_or_concat' before with rfl | ⟨ts, u, rfl⟩
  · exact absurd hd (by simp)
  refine Bool.eq_false_iff.2 fun hlastSymbol => ?_
  have hu : u.WellFormed := hwf u (by simp)
  have hstop := hmax ts u (t :: behind) (by rw [List.append_assoc]; rfl)
  have hlast : d ∈ u.contents.getLast? := by
    obtain ⟨x, e, he⟩ := (List.eq_nil_or_concat' u.contents).resolve_left hu.ne_nil
    rw [text_append, text_cons, text_nil, List.append_nil, he, ← List.append_assoc,
      List.getLast?_concat] at hd
    rw [he, List.getLast?_concat]
    exact hd
  rw [text_cons, hc, List.cons_append, hu.stopsAt_symbol hlast hlastSymbol hsymbol] at hstop
  exact Bool.noConfusion hstop

/-- Behind a comment the next character ends the line. -/
theorem Maximal.exists_lineEnd {ts us : List Token} {t : Token} {a b : Text}
    (hmax : Maximal (ts ++ t :: us)) (hk : t.kind = .comment) (hus : text us = a ++ b)
    (ha : a ≠ []) : ∃ d ∈ a, isLineEnd d = true := by
  have hstop := hmax ts t us rfl
  obtain ⟨d, w, rfl⟩ := List.exists_cons_of_ne_nil ha
  rw [hk, hus] at hstop
  exact ⟨d, by simp, by simpa [Kind.stopsAt] using hstop⟩

end Token

section Region

variable {before behind : List Token} {t : Token} {x y u v : Text} {c : Char}

/-- A `#` with a comment region up to a character of a token: the token is a comment. -/
theorem comment_of_region (hwf : ∀ w ∈ before ++ t :: behind, w.WellFormed)
    (hmax : Token.Maximal (before ++ t :: behind)) (hc : t.contents = x ++ c :: y)
    (hhash : Token.text before ++ (x ++ [c]) = u ++ '#' :: v)
    (hends : ∀ d ∈ v, isLineEnd d = false) (hlast : ∀ d ∈ u.getLast?, isSymbol d = false) :
    t.kind = .comment := by
  by_contra hk
  -- The `#` is in no token but a comment, or it would have a symbol in front of it.
  have inside {w : Token} (hw : w.WellFormed) (hwk : w.kind ≠ .comment) {b a r : Text}
      (hwc : w.contents = a ++ '#' :: r) (hu : u = b ++ a) : False := by
    obtain ⟨d, hd, hsymbol⟩ := hw.exists_symbol_of_hash hwc hwk
    have hno := hlast d (by rw [hu, List.getLast?_append, hd]; rfl)
    rw [hno] at hsymbol
    exact Bool.noConfusion hsymbol
  have ht : t.WellFormed := hwf t (by simp)
  have hcontents : t.contents = (x ++ [c]) ++ y := by rw [hc]; simp
  rcases List.append_eq_append_iff.1 hhash with ⟨a, hu, hx⟩ | ⟨a, hbefore, hv⟩
  · rw [hx, List.append_assoc] at hcontents
    exact inside ht hk hcontents hu
  cases a with
  | nil =>
      rw [List.nil_append] at hv
      rw [← hv] at hcontents
      exact inside ht hk (a := []) hcontents (List.append_nil u).symm
  | cons d a =>
      rw [List.cons_append] at hv
      obtain ⟨rfl, rfl⟩ := List.cons.inj hv
      obtain ⟨ts, w, us, a', r, rfl, hwc, hu, rfl⟩ := Token.exists_of_text_eq hbefore
      have hw : w.WellFormed := hwf w (by simp)
      by_cases hwk : w.kind = .comment
      · -- It is in an earlier comment, which has ended with its line.
        rw [List.append_assoc, List.cons_append] at hmax
        have htext : Token.text (us ++ t :: behind) =
            (Token.text us ++ (x ++ [c])) ++ (y ++ Token.text behind) := by
          rw [Token.text_append, Token.text_cons, hc]
          simp
        obtain ⟨d, hd, hline⟩ := hmax.exists_lineEnd hwk htext (by simp)
        have hno := hends d (by rw [List.append_assoc]; exact List.mem_append_right r hd)
        rw [hno] at hline
        exact Bool.noConfusion hline
      · exact inside hw hwk hwc hu

/-- The `#` that a comment begins with has a region that covers the comment. -/
theorem exists_region_of_comment (hwf : ∀ w ∈ before ++ t :: behind, w.WellFormed)
    (hmax : Token.Maximal (before ++ t :: behind)) (hc : t.contents = x ++ c :: y)
    (hk : t.kind = .comment) :
    ∃ u v, Token.text before ++ (x ++ [c]) = u ++ '#' :: v ∧ (∀ d ∈ v, isLineEnd d = false) ∧
      ∀ d ∈ u.getLast?, isSymbol d = false := by
  obtain ⟨hash, hline⟩ := (hwf t (by simp)).comment_line hk
  obtain ⟨w, hw⟩ := List.head?_eq_some_iff.1 hash
  have hlast := hmax.not_symbol_of_symbol (fun u hu => hwf u (List.mem_append_left _ hu)) hw
    isSymbol_hash
  rw [hc] at hash hline
  cases x with
  | nil =>
      obtain rfl : c = '#' := by simpa using hash
      exact ⟨Token.text before, [], rfl, fun d hd => absurd hd List.not_mem_nil, hlast⟩
  | cons e x =>
      obtain rfl : e = '#' := by simpa using hash
      refine ⟨Token.text before, x ++ [c], rfl, fun d hd => hline d ?_, hlast⟩
      rcases List.mem_append.1 hd with hd | hd
      · simp [hd]
      · obtain rfl := List.mem_singleton.1 hd
        simp

end Region

/-- The text around a character of a token. -/
theorem source_eq_around {s : Text} {before behind : List Token} {t : Token} {x y : Text} {c : Char}
    (h : scan s = before ++ t :: behind) (hc : t.contents = x ++ c :: y) :
    s = (Token.text before ++ x) ++ c :: (y ++ Token.text behind) := by
  rw [← text_scan s, h, Token.text_append, Token.text_cons, hc]
  simp

/-- A character lies in a comment region exactly if its token is a comment. -/
theorem commentRegion_iff {s : Text} {before behind : List Token} {t : Token} {x y : Text}
    {c : Char} (h : scan s = before ++ t :: behind) (hc : t.contents = x ++ c :: y) :
    CommentRegion s (Token.text before ++ x).length ↔ t.kind = .comment := by
  have hwf : ∀ w ∈ before ++ t :: behind, w.WellFormed := by
    intro w hw
    rw [← h] at hw
    exact wellFormed_of_mem_scan hw
  have hmax := maximal_scan s
  rw [h] at hmax
  rw [source_eq_around h hc, commentRegion_append_iff, List.append_assoc]
  constructor
  · rintro ⟨u, v, hhash, hends, hlast⟩
    exact comment_of_region hwf hmax hc hhash hends hlast
  · intro hk
    exact exists_region_of_comment hwf hmax hc hk

/-! ## Comments by their spans -/

/-- The character at position `p` stands in a comment of the scan: its first byte is in the span
of one. -/
def InComment (s : Text) (p : Nat) : Prop :=
  ∃ t ∈ scanFile s, t.token.kind = .comment ∧
    t.span.start ≤ Text.byteSize (s.take p) ∧ Text.byteSize (s.take p) < t.span.stop

instance (s : Text) (p : Nat) : Decidable (InComment s p) :=
  inferInstanceAs (Decidable (∃ t ∈ scanFile s, _))

/-- A byte is in the span of one token only. -/
theorem Token.eq_of_covers {start n : Nat} {ts : List Token} {u v : LocatedToken}
    (hu : u ∈ locate start ts) (hv : v ∈ locate start ts)
    (hun : u.span.start ≤ n ∧ n < u.span.stop) (hvn : v.span.start ≤ n ∧ n < v.span.stop) :
    u = v := by
  induction ts generalizing start with
  | nil => exact absurd hu List.not_mem_nil
  | cons t ts ih =>
      -- What is behind the first token begins where the first token ends.
      have later {w : LocatedToken} (hw : w ∈ locate (start + t.size) ts) :
          start + t.size ≤ w.span.start := by
        obtain ⟨before, behind, -, hstart, -⟩ := exists_of_mem_locate hw
        omega
      rcases List.mem_cons.1 hu with rfl | hu
      · rcases List.mem_cons.1 hv with rfl | hv
        · rfl
        · have := later hv
          simp only at hun
          omega
      · rcases List.mem_cons.1 hv with rfl | hv
        · have := later hu
          simp only at hvn
          omega
        · exact ih hu hv

/-- A token of a scan stands behind the text of those in front of it. -/
theorem mem_scanFile {s : Text} {before behind : List Token} {t : Token}
    (h : scan s = before ++ t :: behind) :
    ⟨t, ⟨(Token.text before).byteSize, (Token.text before).byteSize + t.size⟩⟩ ∈ scanFile s := by
  rw [scanFile_eq_append, h, Token.locate_append, Token.locate, Nat.zero_add]
  simp

/-- A character stands in a comment exactly if its token is one. -/
theorem inComment_iff {s : Text} {before behind : List Token} {t : Token} {x y : Text} {c : Char}
    (h : scan s = before ++ t :: behind) (hc : t.contents = x ++ c :: y) :
    InComment s (Token.text before ++ x).length ↔ t.kind = .comment := by
  have htake : s.take (Token.text before ++ x).length = Token.text before ++ x := by
    rw [source_eq_around h hc, List.take_left]
  have hcovers : (Token.text before).byteSize ≤ (Token.text before ++ x).byteSize ∧
      (Token.text before ++ x).byteSize < (Token.text before).byteSize + t.size := by
    have hsize := c.utf8Size_pos
    rw [Token.size, hc, Text.byteSize_append, Text.byteSize_append, Text.byteSize_cons]
    omega
  rw [InComment, htake]
  constructor
  · rintro ⟨u, hu, hk, hun⟩
    rw [Token.eq_of_covers hu (mem_scanFile h) hun hcovers] at hk
    exact hk
  · intro hk
    exact ⟨_, mem_scanFile h, hk, hcovers⟩

/-- A position of a source is in one of its tokens. -/
theorem exists_of_position {s : Text} (p : Fin s.length) :
    ∃ before t behind x y, scan s = before ++ t :: behind ∧ t.contents = x ++ s[p] :: y ∧
      (p : Nat) = (Token.text before ++ x).length := by
  have hs : Token.text (scan s) = s.take p ++ s[p] :: s.drop (p + 1) := by
    rw [text_scan, Fin.getElem_fin, ← List.drop_eq_getElem_cons p.isLt, List.take_append_drop]
  obtain ⟨before, t, behind, x, y, hscan, hc, htake, -⟩ := Token.exists_of_text_eq hs
  refine ⟨before, t, behind, x, y, hscan, hc, ?_⟩
  rw [← htake, List.length_take_of_le (Nat.le_of_lt p.isLt)]

/-- A character stands in a comment exactly if it lies in a comment region: whether it does can be
told from the characters in front of it. -/
theorem inComment_iff_commentRegion {s : Text} (p : Fin s.length) :
    InComment s p ↔ CommentRegion s p := by
  obtain ⟨before, t, behind, x, y, hscan, hc, hp⟩ := exists_of_position p
  rw [hp, inComment_iff hscan hc, commentRegion_iff hscan hc]

end LosslessScanner
