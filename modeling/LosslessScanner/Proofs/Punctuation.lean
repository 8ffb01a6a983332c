import LosslessScanner.Proofs.CommentRegion

/-!
# Where punctuation is

Outside comments the six kinds of punctuation can be told from a character and
the two next to it. The delimiters are tokens wherever they stand. The equals
sign and the point are symbols like others, and a symbol is a token of its own
if it has no symbol beside it; the point must also have no digit behind it,
with which it would be a fraction.

What a token of more than one character has to do with that depends on where
the character is in it. In a run of symbols one of its neighbours is in the run
as well. In a number the point is followed by a digit. In a comment anything may
stand, and so comments are left out. Conversely a token of one symbol has been
stopped by what follows it, and it would have been part of the token in front if
that one ended with a symbol.
-/

namespace LosslessScanner

/-! ## Neighbours -/

/-- The characters next to position `p`, where there are any, are no symbols. -/
def NoSymbolBeside (s : Text) (p : Nat) : Prop :=
  (∀ d ∈ (s.take p).getLast?, isSymbol d = false) ∧ ∀ d ∈ s[p + 1]?, isSymbol d = false

instance (s : Text) (p : Nat) : Decidable (NoSymbolBeside s p) :=
  inferInstanceAs (Decidable (_ ∧ _))

/-- The character `c` at position `p` is punctuation by itself, unless a comment hides it. -/
def StandsAlone (s : Text) (p : Nat) (c : Char) : Prop :=
  isDelimiter c ∨ c = '=' ∧ NoSymbolBeside s p ∨
    c = '.' ∧ NoSymbolBeside s p ∧ ∀ d ∈ s[p + 1]?, isDigit d = false

instance (s : Text) (p : Nat) (c : Char) : Decidable (StandsAlone s p c) :=
  inferInstanceAs (Decidable (_ ∨ _))

theorem getElem?_behind {front back : Text} {c : Char} :
    (front ++ c :: back)[front.length + 1]? = back.head? := by
  rw [List.getElem?_append_right (Nat.le_succ _), List.head?_eq_getElem?]
  simp

theorem noSymbolBeside_append_iff {front back : Text} {c : Char} :
    NoSymbolBeside (front ++ c :: back) front.length ↔
      (∀ d ∈ front.getLast?, isSymbol d = false) ∧ ∀ d ∈ back.head?, isSymbol d = false := by
  rw [NoSymbolBeside, List.take_left, getElem?_behind]

/-! ## Tokens of one character -/

namespace Token

variable {t : Token}

theorem WellFormed.punctuation (h : t.WellFormed) (hk : t.kind.isPunctuation) :
    ∃ c, t = ⟨Vocabulary.symbolKind [c], [c]⟩ ∧ (isDelimiter c ∨ c = '=' ∨ c = '.') := by
  cases h with
  | semicolon => exact ⟨';', rfl, Or.inl rfl⟩
  | comma => exact ⟨',', rfl, Or.inl rfl⟩
  | leftParen => exact ⟨'(', rfl, Or.inl rfl⟩
  | rightParen => exact ⟨')', rfl, Or.inl rfl⟩
  | eq => exact ⟨'=', rfl, Or.inr (Or.inl rfl)⟩
  | dot => exact ⟨'.', rfl, Or.inr (Or.inr rfl)⟩
  | keyword key =>
      rcases Vocabulary.keyword_cases key with ⟨-, rfl⟩ | ⟨-, rfl⟩ | ⟨-, rfl⟩
      · exact Bool.noConfusion hk
      · exact Bool.noConfusion hk
      · exact Bool.noConfusion hk
  | _ => exact Bool.noConfusion hk

/-- A delimiter is in no token but a comment and its own. -/
theorem WellFormed.isPunctuation_of_delimiter (h : t.WellFormed) (hk : t.kind ≠ .comment)
    {c : Char} (hc : c ∈ t.contents) (hd : isDelimiter c) : t.kind.isPunctuation := by
  have absurd_of {p : Char → Bool} (hno : p c = false) (hp : p c) : t.kind.isPunctuation :=
    absurd hp (Bool.eq_false_iff.1 hno)
  have hletter := not_letter_of_delimiter hd
  have hdigit := not_digit_of_delimiter hd
  have hsymbol := not_symbol_of_delimiter hd
  cases h with
  | whitespace _ blank => exact absurd_of (not_blank_of_delimiter hd) (blank c hc)
  | comment _ _ _ => exact absurd rfl hk
  | identifier letter tail _ =>
      rcases List.mem_cons.1 hc with rfl | hc
      · exact absurd_of hletter letter
      · rcases tail c hc with h | h
        · exact absurd_of hletter h
        · exact absurd_of hdigit h
  | keyword key =>
      obtain ⟨d, w, rfl, letter, letters⟩ := Vocabulary.letters_of_mem key
      rcases List.mem_cons.1 hc with rfl | hc
      · exact absurd_of hletter letter
      · exact absurd_of hletter (letters c hc)
  | integer _ digit => exact absurd_of hdigit (digit c hc)
  | float whole _ fraction =>
      rcases List.mem_append.1 hc with hc | hc
      · exact absurd_of hdigit (whole c hc)
      rcases List.mem_cons.1 hc with rfl | hc
      · exact absurd_of hsymbol isSymbol_point
      · exact absurd_of hdigit (fraction c hc)
  | semicolon | comma | leftParen | rightParen | eq | dot => rfl
  | operator _ symbol _ _ _ => exact absurd_of hsymbol (symbol c hc)
  | undefined control _ =>
      obtain rfl := List.mem_singleton.1 hc
      exact absurd hd (Bool.eq_false_iff.1 (not_delimiter_of_control control))

/-- In an operator, an equals sign or a point has a symbol beside it. -/
theorem WellFormed.exists_symbol_beside (h : t.WellFormed) (hk : t.kind = .operator)
    {x y : Text} {c : Char} (hc : t.contents = x ++ c :: y) (hpunct : c = '=' ∨ c = '.') :
    (∃ d ∈ x.getLast?, isSymbol d) ∨ ∃ d ∈ y.head?, isSymbol d := by
  cases h with
  | operator _ symbol _ equals point =>
      simp only at hc
      rcases List.eq_nil_or_concat' x with rfl | ⟨u, d, rfl⟩
      · cases y with
        | nil =>
            rcases hpunct with rfl | rfl
            · exact absurd hc equals
            · exact absurd hc point
        | cons d y => exact Or.inr ⟨d, rfl, symbol d (by rw [hc]; simp)⟩
      · exact Or.inl ⟨d, List.getLast?_concat, symbol d (by rw [hc]; simp)⟩
  | keyword key => exact absurd hk (Vocabulary.kind_ne_of_mem key rfl)
  | _ => exact Kind.noConfusion hk

/-- In a number, the point has a digit behind it. -/
theorem WellFormed.exists_digit_behind (h : t.WellFormed) (hk : t.kind = .float64)
    {x y : Text} (hc : t.contents = x ++ '.' :: y) : ∃ d ∈ y.head?, isDigit d := by
  obtain ⟨w, f, hw, whole, ne, fraction⟩ := h.decimal hk
  have hnotw : '.' ∉ w := fun hmem => ne_point_of_digit (whole '.' hmem) rfl
  have hnotf : '.' ∉ f := fun hmem => ne_point_of_digit (fraction '.' hmem) rfl
  rw [hc] at hw
  obtain ⟨-, -, rfl⟩ := (List.append_cons_inj_of_notMem hnotw hnotf).1 hw.symm
  obtain ⟨d, v, rfl⟩ := List.exists_cons_of_ne_nil ne
  exact ⟨d, rfl, fraction d (by simp)⟩

end Token

section Place

variable {s : Text} {before behind : List Token} {t : Token} {x y : Text} {c : Char}

theorem not_noSymbolBeside (h : scan s = before ++ t :: behind) (hc : t.contents = x ++ c :: y)
    (hbeside : (∃ d ∈ x.getLast?, isSymbol d) ∨ ∃ d ∈ y.head?, isSymbol d) :
    ¬ NoSymbolBeside s (Token.text before ++ x).length := by
  intro hno
  rw [source_eq_around h hc, noSymbolBeside_append_iff] at hno
  rcases hbeside with ⟨d, hd, hsymbol⟩ | ⟨d, hd, hsymbol⟩
  · have hfront := hno.1 d (by rw [List.getLast?_append, hd]; rfl)
    exact absurd hsymbol (Bool.eq_false_iff.1 hfront)
  · have hback := hno.2 d (by rw [List.head?_append, hd]; rfl)
    exact absurd hsymbol (Bool.eq_false_iff.1 hback)

/-- A character that stands alone and in no comment is a token of punctuation. -/
theorem isPunctuation_of_standsAlone (h : scan s = before ++ t :: behind)
    (hc : t.contents = x ++ c :: y) (hk : t.kind ≠ .comment)
    (halone : StandsAlone s (Token.text before ++ x).length c) : t.kind.isPunctuation := by
  have ht : t.WellFormed := wellFormed_of_mem_scan (s := s) (by rw [h]; simp)
  have hmem : c ∈ t.contents := by rw [hc]; simp
  -- A token with a symbol in it is an operator or punctuation, or a number.
  have beside (hpunct : c = '=' ∨ c = '.')
      (hbeside : NoSymbolBeside s (Token.text before ++ x).length)
      (hnumber : ¬ (t.kind = .float64 ∧ c = '.')) : t.kind.isPunctuation := by
    have hsymbol : isSymbol c := by
      rcases hpunct with rfl | rfl
      · exact isSymbol_equals
      · exact isSymbol_point
    rcases ht.kind_of_symbol hmem hsymbol with hk' | hk' | rfl | rfl | hpoint
    · exact absurd hk' hk
    · exact absurd hbeside (not_noSymbolBeside h hc (ht.exists_symbol_beside hk' hc hpunct))
    · rfl
    · rfl
    · exact absurd hpoint hnumber
  rcases halone with hd | ⟨rfl, hbeside⟩ | ⟨rfl, hbeside, hdigit⟩
  · exact ht.isPunctuation_of_delimiter hk hmem hd
  · exact beside (Or.inl rfl) hbeside fun hnumber => absurd hnumber.2 (by decide)
  · refine beside (Or.inr rfl) hbeside fun hnumber => ?_
    obtain ⟨d, hd, hbehind⟩ := ht.exists_digit_behind hnumber.1 hc
    rw [source_eq_around h hc, getElem?_behind] at hdigit
    have hno := hdigit d (by rw [List.head?_append, hd]; rfl)
    exact absurd hbehind (Bool.eq_false_iff.1 hno)

/-- A token of punctuation is one character, which stands alone. -/
theorem standsAlone_of_isPunctuation (h : scan s = before ++ t :: behind)
    (hk : t.kind.isPunctuation) :
    ∃ c, t = ⟨Vocabulary.symbolKind [c], [c]⟩ ∧ StandsAlone s (Token.text before).length c := by
  have hwf : ∀ u ∈ scan s, u.WellFormed := fun u hu => wellFormed_of_mem_scan hu
  have hmax := maximal_scan s
  rw [h] at hwf hmax
  obtain ⟨c, rfl, hpunct⟩ := (hwf t (by simp)).punctuation hk
  refine ⟨c, rfl, ?_⟩
  rcases hpunct with hd | hpunct
  · exact Or.inl hd
  have hfront (hsymbol : isSymbol c) : ∀ d ∈ (Token.text before).getLast?, isSymbol d = false :=
    hmax.not_symbol_of_symbol (fun u hu => hwf u (by simp [hu])) rfl hsymbol
  have hback {p : Char → Bool} (hp : (Token.text behind).begins p = false) :
      ∀ d ∈ (Token.text behind).head?, p d = false := by
    intro d hd
    rwa [Text.begins, hd] at hp
  have hs : s = Token.text before ++ c :: Token.text behind := by
    have hs := source_eq_around h (x := []) (y := []) rfl
    rwa [List.append_nil, List.nil_append] at hs
  rw [hs, StandsAlone, noSymbolBeside_append_iff, getElem?_behind]
  rcases hpunct with rfl | rfl
  · have hstop : Kind.eq.stopsAt (Token.text behind) = true := hmax before _ behind rfl
    rw [Kind.stopsAt, Bool.not_eq_true'] at hstop
    exact Or.inr (Or.inl ⟨rfl, hfront isSymbol_equals, hback hstop⟩)
  · have hstop : Kind.dot.stopsAt (Token.text behind) = true := hmax before _ behind rfl
    rw [Kind.stopsAt, Bool.and_eq_true, Bool.not_eq_true', Bool.not_eq_true'] at hstop
    exact Or.inr (Or.inr ⟨rfl, ⟨hfront isSymbol_point, hback hstop.1⟩, hback hstop.2⟩)

end Place

/-! ## The table -/

namespace Vocabulary

theorem punctuation_cases {t : Text} {k : Kind} (h : (t, k) ∈ punctuation) :
    (t = [';'] ∧ k = .semicolon) ∨ (t = ['='] ∧ k = .eq) ∨ (t = [','] ∧ k = .comma) ∨
      (t = ['.'] ∧ k = .dot) ∨ (t = ['('] ∧ k = .leftParen) ∨ (t = [')'] ∧ k = .rightParen) := by
  simpa [punctuation] using h

theorem isPunctuation_of_mem {t : Text} {k : Kind} (h : (t, k) ∈ punctuation) :
    k.isPunctuation ∧ symbolKind t = k := by
  rcases punctuation_cases h with ⟨rfl, rfl⟩ | ⟨rfl, rfl⟩ | ⟨rfl, rfl⟩ | ⟨rfl, rfl⟩ | ⟨rfl, rfl⟩ |
    ⟨rfl, rfl⟩
  all_goals exact ⟨rfl, rfl⟩

/-- No two texts have the same kind in the table. -/
theorem text_eq_of_mem {t u : Text} {k : Kind} (ht : (t, k) ∈ punctuation)
    (hu : (u, k) ∈ punctuation) : t = u := by
  rcases punctuation_cases ht with ⟨rfl, rfl⟩ | ⟨rfl, rfl⟩ | ⟨rfl, rfl⟩ | ⟨rfl, rfl⟩ | ⟨rfl, rfl⟩ |
    ⟨rfl, rfl⟩
  all_goals simpa [punctuation, eq_comm] using hu

end Vocabulary

namespace StandsAlone

variable {s : Text} {p : Nat} {c : Char}

theorem mem_punctuation (h : StandsAlone s p c) :
    ([c], Vocabulary.symbolKind [c]) ∈ Vocabulary.punctuation := by
  rcases h with hd | ⟨rfl, -⟩ | ⟨rfl, -⟩
  · rcases Vocabulary.delimiter_cases hd with rfl | rfl | rfl | rfl
    all_goals decide
  · decide
  · decide

theorem utf8Size (h : StandsAlone s p c) : c.utf8Size = 1 := by
  rcases h with hd | ⟨rfl, -⟩ | ⟨rfl, -⟩
  · rcases Vocabulary.delimiter_cases hd with rfl | rfl | rfl | rfl
    all_goals rfl
  · rfl
  · rfl

end StandsAlone

/-! ## Punctuation by its characters -/

/-- The token of punctuation that the character at a position is, if it is one. -/
def punctuationAt? (s : Text) : Char × Nat → Option LocatedToken
  | (c, p) =>
    let start := Text.byteSize (s.take p)
    if StandsAlone s p c ∧ ¬ InComment s p then
      some ⟨⟨Vocabulary.symbolKind [c], [c]⟩, ⟨start, start + 1⟩⟩
    else none

theorem filterMap_punctuationAt?_contents {s : Text} {before behind : List Token} {t : Token}
    (h : scan s = before ++ t :: behind) :
    (t.contents.zipIdx (Token.text before).length).filterMap (punctuationAt? s) =
      (Option.guard (·.token.kind.isPunctuation) (LocatedToken.mk t
        ⟨(Token.text before).byteSize, (Token.text before).byteSize + t.size⟩)).toList := by
  by_cases hk : t.kind.isPunctuation
  · obtain ⟨c, ht, halone⟩ := standsAlone_of_isPunctuation h hk
    have hc : t.contents = [] ++ c :: [] := by rw [ht]; rfl
    have hcomment : ¬ InComment s (Token.text before).length := by
      have hiff := inComment_iff h hc
      rw [List.append_nil] at hiff
      intro hin
      rw [hiff.1 hin] at hk
      exact Bool.noConfusion hk
    have htake : s.take (Token.text before).length = Token.text before := by
      rw [← text_scan s, h, Token.text_append, List.take_left]
    have hsize : t.size = 1 := by
      rw [ht, Token.size, Text.byteSize_cons, halone.utf8Size, Text.byteSize_nil]
    have hguard : Option.guard (fun u : LocatedToken => u.token.kind.isPunctuation)
        ⟨t, ⟨(Token.text before).byteSize, (Token.text before).byteSize + t.size⟩⟩ =
          some ⟨t, ⟨(Token.text before).byteSize, (Token.text before).byteSize + 1⟩⟩ := by
      simp [Option.guard, hk, hsize]
    rw [hguard, hc]
    simp [punctuationAt?, halone, hcomment, htake, ← ht]
  · have hguard : Option.guard (fun u : LocatedToken => u.token.kind.isPunctuation)
        ⟨t, ⟨(Token.text before).byteSize, (Token.text before).byteSize + t.size⟩⟩ = none := by
      simp [Option.guard, hk]
    rw [hguard, Option.toList_none, List.filterMap_eq_nil_iff]
    rintro ⟨c, p⟩ hp
    obtain ⟨x, y, hc, rfl⟩ := Token.exists_of_mem_zipIdx hp
    refine if_neg fun hhere => hk ?_
    rw [← List.length_append, inComment_iff h hc] at hhere
    exact isPunctuation_of_standsAlone h hc hhere.2 hhere.1

/-- The tokens of punctuation are the characters that stand alone and in no comment. -/
theorem filter_isPunctuation_scanFile (s : Text) :
    (scanFile s).filter (·.token.kind.isPunctuation) = s.zipIdx.filterMap (punctuationAt? s) := by
  have hwhole : scan s = [] ++ scan s := rfl
  have h := Token.filterMap_locate_eq filterMap_punctuationAt?_contents hwhole
  rw [List.filterMap_eq_filter, text_scan] at h
  rw [scanFile_eq_append, List.filter_append]
  exact (List.append_nil _).trans h

/-- The character at a position as a token of its own, one byte long. -/
def ownToken (s : Text) (p : Fin s.length) (k : Kind) : LocatedToken :=
  ⟨⟨k, [s.get p]⟩, ⟨Text.byteSize (s.take p), Text.byteSize (s.take p) + 1⟩⟩

theorem exists_ownToken_of_mem {s : Text} {t : LocatedToken} (ht : t ∈ scanFile s)
    (hk : t.token.kind.isPunctuation) :
    ∃ p : Fin s.length, ¬ InComment s p ∧ StandsAlone s p (s.get p) ∧
      t = ownToken s p (Vocabulary.symbolKind [s.get p]) := by
  have hmem : t ∈ (scanFile s).filter (·.token.kind.isPunctuation) :=
    List.mem_filter.2 ⟨ht, hk⟩
  rw [filter_isPunctuation_scanFile] at hmem
  obtain ⟨⟨c, p⟩, hp, hsome⟩ := List.mem_filterMap.1 hmem
  obtain ⟨hlt, hget⟩ := List.mem_zipIdx' hp
  rw [punctuationAt?] at hsome
  obtain ⟨hhere, ht⟩ := Option.ite_none_right_eq_some.1 hsome
  rw [hget] at hhere ht
  exact ⟨⟨p, hlt⟩, hhere.2, hhere.1, (Option.some.inj ht).symm⟩

theorem ownToken_mem_scanFile {s : Text} {p : Fin s.length} (halone : StandsAlone s p (s.get p))
    (hcomment : ¬ InComment s p) :
    ownToken s p (Vocabulary.symbolKind [s.get p]) ∈ scanFile s := by
  have hmem : (s.get p, (p : Nat)) ∈ s.zipIdx := by
    rw [List.mk_mem_zipIdx_iff_getElem?]
    simp
  have hfound : ownToken s p (Vocabulary.symbolKind [s.get p]) ∈
      s.zipIdx.filterMap (punctuationAt? s) :=
    List.mem_filterMap.2 ⟨_, hmem, if_pos ⟨halone, hcomment⟩⟩
  rw [← filter_isPunctuation_scanFile] at hfound
  exact (List.mem_filter.1 hfound).1

/-- Outside comments, a character of the table is a token of its own if it stands alone, and only
then. -/
theorem ownToken_mem_scanFile_iff {s : Text} {p : Fin s.length} {k : Kind}
    (hcomment : ¬ InComment s p) (hk : ([s.get p], k) ∈ Vocabulary.punctuation) :
    ownToken s p k ∈ scanFile s ↔ StandsAlone s p (s.get p) := by
  obtain ⟨hpunct, rfl⟩ := Vocabulary.isPunctuation_of_mem hk
  constructor
  · intro hmem
    obtain ⟨q, -, halone, hq⟩ := exists_ownToken_of_mem hmem hpunct
    have hoffset : Text.byteSize (s.take p) = Text.byteSize (s.take q) :=
      congrArg (·.span.start) hq
    have hpq : p = q :=
      Fin.ext (Text.eq_of_byteSize_take (Nat.le_of_lt p.isLt) (Nat.le_of_lt q.isLt) hoffset)
    rw [hpq]
    exact halone
  · intro halone
    exact ownToken_mem_scanFile halone hcomment

theorem countP_kind_scanFile {s : Text} {c : Char} {k : Kind} (hd : isDelimiter c)
    (hk : ([c], k) ∈ Vocabulary.punctuation) :
    (scanFile s).countP (·.token.kind = k) =
      s.zipIdx.countP fun (d, p) => d = c ∧ ¬ InComment s p := by
  obtain ⟨hpunct, hkind⟩ := Vocabulary.isPunctuation_of_mem hk
  have hfilter : (scanFile s).countP (·.token.kind = k) =
      ((scanFile s).filter (·.token.kind.isPunctuation)).countP (·.token.kind = k) := by
    rw [List.countP_filter]
    refine List.countP_congr fun t _ => ?_
    rw [Bool.and_eq_true, decide_eq_true_eq]
    exact ⟨fun h => ⟨h, h ▸ hpunct⟩, And.left⟩
  rw [hfilter, filter_isPunctuation_scanFile, List.countP_filterMap]
  refine List.countP_congr fun ⟨d, p⟩ _ => ?_
  by_cases hhere : StandsAlone s p d ∧ ¬ InComment s p
  · have hdc : Vocabulary.symbolKind [d] = k ↔ d = c := by
      constructor
      · intro heq
        have hmem := hhere.1.mem_punctuation
        rw [heq] at hmem
        exact List.singleton_inj.1 (Vocabulary.text_eq_of_mem hmem hk)
      · rintro rfl
        exact hkind
    simp [punctuationAt?, hhere, hdc]
  · have hno : ¬ (d = c ∧ ¬ InComment s p) := by
      rintro ⟨rfl, hcomment⟩
      exact hhere ⟨Or.inl hd, hcomment⟩
    simp [punctuationAt?, hhere, hno]

/-- Outside comments, the four delimiters are tokens wherever they stand, an equals sign is one if
no symbol is beside it, and a point if moreover no digit is behind it. There is no other
punctuation, so that there are as many tokens of a delimiter as the delimiter occurs. -/
theorem punctuation_scanFile (s : Text) :
    (∀ p : Fin s.length, ¬ InComment s p →
      (isDelimiter (s.get p) →
        ∃ k, ([s.get p], k) ∈ Vocabulary.punctuation ∧ ownToken s p k ∈ scanFile s) ∧
      (s.get p = '=' → (ownToken s p .eq ∈ scanFile s ↔ NoSymbolBeside s p)) ∧
      (s.get p = '.' → (ownToken s p .dot ∈ scanFile s ↔
        NoSymbolBeside s p ∧ ∀ d ∈ s[p.val + 1]?, isDigit d = false))) ∧
    (∀ t ∈ scanFile s, t.token.kind.isPunctuation →
      ∃ p : Fin s.length, ¬ InComment s p ∧ StandsAlone s p (s.get p) ∧
        ([s.get p], t.token.kind) ∈ Vocabulary.punctuation ∧ t = ownToken s p t.token.kind) ∧
    ∀ c k, isDelimiter c → ([c], k) ∈ Vocabulary.punctuation →
      (scanFile s).countP (·.token.kind = k) =
        s.zipIdx.countP fun (d, p) => d = c ∧ ¬ InComment s p := by
  refine ⟨fun p hcomment => ⟨fun hd => ?_, fun heq => ?_, fun hpoint => ?_⟩,
    fun t ht hk => ?_, fun c k hd hk => countP_kind_scanFile hd hk⟩
  · have halone : StandsAlone s p (s.get p) := Or.inl hd
    exact ⟨_, halone.mem_punctuation, ownToken_mem_scanFile halone hcomment⟩
  · rw [ownToken_mem_scanFile_iff hcomment (by rw [heq]; decide), heq]
    simp [StandsAlone, isDelimiter]
  · rw [ownToken_mem_scanFile_iff hcomment (by rw [hpoint]; decide), hpoint]
    simp [StandsAlone, isDelimiter]
  · obtain ⟨p, hcomment, halone, ht⟩ := exists_ownToken_of_mem ht hk
    have hkind : t.token.kind = Vocabulary.symbolKind [s.get p] := congrArg (·.token.kind) ht
    rw [hkind]
    exact ⟨p, hcomment, halone, halone.mem_punctuation, ht⟩

end LosslessScanner
