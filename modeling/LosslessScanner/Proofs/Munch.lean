import LosslessScanner.Proofs.Rules
import LosslessScanner.Scan.Basic

/-!
# What a scan is

A scan cuts a text into tokens. This file says which cut it is, without
mentioning how it is found: every token looks the way its kind says
(`Token.WellFormed`), and no token could have gone on (`Kind.stopsAt`). Both
conditions are about one token and the text behind it, and neither is an
algorithm.

That they hold of a scan is soundness. That they hold of nothing else is what
makes them a definition, and it needs no search over cuts. A well-formed token
that stops where it stands is the first token of the text from there on
(`first_eq_of_wellFormed`), so two cuts with both properties agree from the
front.
-/

namespace LosslessScanner

/-! ## The looks of a token -/

/-- A token looks the way its kind says. There is no constructor for the mark
at the end of a source: it is no part of a cut. -/
inductive Token.WellFormed : Token → Prop where
  | whitespace {t : Text} (ne : t ≠ []) (blank : ∀ c ∈ t, isBlank c) :
      WellFormed ⟨.whitespace, t⟩
  | comment {t : Text} (hash : t.head? = some '#') (lf : '\n' ∉ t) (cr : '\r' ∉ t) :
      WellFormed ⟨.comment, t⟩
  | identifier {c : Char} {w : Text} (letter : isLetter c)
      (tail : ∀ d ∈ w, isLetter d ∨ isDigit d)
      (other : ∀ k, (c :: w, k) ∉ Vocabulary.keywords) : WellFormed ⟨.identifier, c :: w⟩
  | keyword {t : Text} {k : Kind} (key : (t, k) ∈ Vocabulary.keywords) : WellFormed ⟨k, t⟩
  | integer {t : Text} (ne : t ≠ []) (digit : ∀ c ∈ t, isDigit c) : WellFormed ⟨.integer, t⟩
  | float {w f : Text} (whole : ∀ c ∈ w, isDigit c) (ne : f ≠ [])
      (fraction : ∀ c ∈ f, isDigit c) : WellFormed ⟨.float64, w ++ '.' :: f⟩
  | semicolon : WellFormed ⟨.semicolon, [';']⟩
  | comma : WellFormed ⟨.comma, [',']⟩
  | leftParen : WellFormed ⟨.leftParen, ['(']⟩
  | rightParen : WellFormed ⟨.rightParen, [')']⟩
  | eq : WellFormed ⟨.eq, ['=']⟩
  | dot : WellFormed ⟨.dot, ['.']⟩
  | operator {t : Text} (ne : t ≠ []) (symbol : ∀ c ∈ t, isSymbol c)
      (hash : t.head? ≠ some '#') (equals : t ≠ ['=']) (point : t ≠ ['.']) :
      WellFormed ⟨.operator, t⟩
  | undefined {c : Char} (control : isControl c) (blank : isBlank c = false) :
      WellFormed ⟨.undefined, [c]⟩

/-- A token of this kind could not go on into the text behind it. Only an
integer looks at two characters; what always has one character never could. -/
def Kind.stopsAt (r : Text) : Kind → Bool
  | whitespace => !r.begins isBlank
  | comment => r.isEmpty || r.begins isLineEnd
  | identifier | defKeyword | varKeyword | classKeyword =>
    !r.begins isLetter && !r.begins isDigit
  | integer => !r.begins isDigit && !r.beginsFraction
  | float64 => !r.begins isDigit
  | operator | eq => !r.begins isSymbol
  | dot => !r.begins isSymbol && !r.begins isDigit
  | semicolon | comma | leftParen | rightParen | undefined | endOfFile => true

/-- No token of a cut could have gone on. -/
def Token.Maximal (ts : List Token) : Prop :=
  ∀ before t after, ts = before ++ t :: after → t.kind.stopsAt (text after) = true

/-! ## The tables

What the two lookups can answer, on the texts that they are asked about. -/

namespace Vocabulary

theorem keyword_cases {t : Text} {k : Kind} (h : (t, k) ∈ keywords) :
    (t = "def".toList ∧ k = .defKeyword) ∨ (t = "var".toList ∧ k = .varKeyword) ∨
      (t = "class".toList ∧ k = .classKeyword) := by
  simpa [keywords] using h

theorem wordKind_of_mem {t : Text} {k : Kind} (h : (t, k) ∈ keywords) : wordKind t = k := by
  rcases keyword_cases h with ⟨rfl, rfl⟩ | ⟨rfl, rfl⟩ | ⟨rfl, rfl⟩
  · rfl
  · rfl
  · rfl

theorem wordKind_of_not_mem {t : Text} (h : ∀ k, (t, k) ∉ keywords) :
    wordKind t = .identifier := by
  cases hl : keywords.lookup t with
  | none => rw [wordKind, hl]; rfl
  | some k =>
      obtain ⟨l₁, l₂, hmem, -⟩ := List.lookup_eq_some_iff.1 hl
      exact absurd (by rw [hmem]; simp) (h k)

theorem letters_of_mem {t : Text} {k : Kind} (h : (t, k) ∈ keywords) :
    ∃ c w, t = c :: w ∧ isLetter c ∧ ∀ d ∈ w, isLetter d := by
  rcases keyword_cases h with ⟨rfl, -⟩ | ⟨rfl, -⟩ | ⟨rfl, -⟩
  · exact ⟨'d', ['e', 'f'], rfl, rfl, List.all_eq_true.1 rfl⟩
  · exact ⟨'v', ['a', 'r'], rfl, rfl, List.all_eq_true.1 rfl⟩
  · exact ⟨'c', ['l', 'a', 's', 's'], rfl, rfl, List.all_eq_true.1 rfl⟩

theorem kind_ne_of_mem {t : Text} {k l : Kind} (h : (t, k) ∈ keywords)
    (hl : l.isKeyword = false) : k ≠ l := by
  rintro rfl
  rcases keyword_cases h with ⟨-, rfl⟩ | ⟨-, rfl⟩ | ⟨-, rfl⟩
  · exact Bool.noConfusion hl
  · exact Bool.noConfusion hl
  · exact Bool.noConfusion hl

/-- Whatever kind a word has, it stops where a word stops. -/
theorem stopsAt_wordKind (t r : Text) :
    (wordKind t).stopsAt r = (!r.begins isLetter && !r.begins isDigit) := by
  by_cases h : ∃ k, (t, k) ∈ keywords
  · obtain ⟨k, hk⟩ := h
    rw [wordKind_of_mem hk]
    rcases keyword_cases hk with ⟨-, rfl⟩ | ⟨-, rfl⟩ | ⟨-, rfl⟩
    · rfl
    · rfl
    · rfl
  · rw [wordKind_of_not_mem fun k hk => h ⟨k, hk⟩]
    rfl

theorem symbolKind_equals : symbolKind ['='] = .eq := rfl

theorem symbolKind_point : symbolKind ['.'] = .dot := rfl

/-- Of the punctuation, two entries are runs of symbols and no others. -/
theorem symbolKind_of_symbols {t : Text} (symbol : ∀ c ∈ t, isSymbol c)
    (equals : t ≠ ['=']) (point : t ≠ ['.']) : symbolKind t = .operator := by
  have apart {c : Char} (hc : isDelimiter c) : t ≠ [c] := by
    rintro rfl
    have := (isSymbol_iff.1 (symbol c (by simp))).2.2.2.2
    rw [hc] at this
    exact Bool.noConfusion this
  have hnone : punctuation.lookup t = none := by
    rw [List.lookup_eq_none_iff]
    simp only [punctuation, List.mem_cons, List.not_mem_nil, or_false]
    rintro ⟨u, k⟩ h
    simp only [Prod.mk.injEq] at h
    rcases h with ⟨rfl, -⟩ | ⟨rfl, -⟩ | ⟨rfl, -⟩ | ⟨rfl, -⟩ | ⟨rfl, -⟩ | ⟨rfl, -⟩
    · simpa using apart (c := ';') (by decide)
    · simpa using equals
    · simpa using apart (c := ',') (by decide)
    · simpa using point
    · simpa using apart (c := '(') (by decide)
    · simpa using apart (c := ')') (by decide)
  rw [symbolKind, hnone]
  rfl

theorem delimiter_cases {c : Char} (h : isDelimiter c) :
    c = '(' ∨ c = ')' ∨ c = ',' ∨ c = ';' := by
  simpa [isDelimiter, or_assoc] using h

end Vocabulary

/-! ## Soundness -/

namespace Token

/-- The first token of a text looks the way its kind says. -/
theorem wellFormed_first (c : Char) (rest : Text) : (first c rest).WellFormed := by
  have h := Lexeme.applies_first c rest
  unfold first
  generalize Lexeme.first c rest = l at h ⊢
  cases h with
  | blank h =>
      exact .whitespace (List.cons_ne_nil _ _) (Text.mem_cons_take_run h)
  | comment =>
      refine .comment rfl (fun hlf => ?_) (fun hcr => ?_)
      · rcases List.mem_cons.1 hlf with h | h
        · exact absurd h (by decide)
        · exact absurd (Text.mem_take_run h) (by decide)
      · rcases List.mem_cons.1 hcr with h | h
        · exact absurd h (by decide)
        · exact absurd (Text.mem_take_run h) (by decide)
  | word h =>
      simp only [Form.kind]
      by_cases hk : ∃ k, (c :: rest.take (Text.run isWordTail rest), k) ∈ Vocabulary.keywords
      · obtain ⟨k, hk⟩ := hk
        rw [Vocabulary.wordKind_of_mem hk]
        exact .keyword hk
      · have hk := fun k hmem => hk ⟨k, hmem⟩
        rw [Vocabulary.wordKind_of_not_mem hk]
        refine .identifier h (fun d hd => ?_) hk
        have := Text.mem_take_run hd
        simpa [isWordTail] using this
  | integer h hf =>
      exact .integer (List.cons_ne_nil _ _) (Text.mem_cons_take_run h)
  | float h hf =>
      obtain ⟨u, hu, hdigit, hlen⟩ := Lexeme.exists_of_fraction hf
      simp only [Form.kind]
      rw [List.take_add, hlen, hu, List.take_succ_cons, ← List.cons_append]
      exact .float (Text.mem_cons_take_run h) (Text.take_run_ne_nil hdigit)
        (fun d hd => Text.mem_take_run hd)
  | pointFloat h =>
      exact .float (w := []) (fun d hd => absurd hd List.not_mem_nil)
        (Text.take_run_ne_nil h) (fun d hd => Text.mem_take_run hd)
  | delimiter h =>
      rcases Vocabulary.delimiter_cases h with rfl | rfl | rfl | rfl
      · exact .leftParen
      · exact .rightParen
      · exact .comma
      · exact .semicolon
  | symbols h hash point =>
      have hall := Text.mem_cons_take_run (t := rest) h
      simp only [Form.kind]
      by_cases hequals : c :: rest.take (Text.run isSymbol rest) = ['=']
      · rw [hequals]
        exact .eq
      by_cases hpoint : c :: rest.take (Text.run isSymbol rest) = ['.']
      · rw [hpoint]
        exact .dot
      · rw [Vocabulary.symbolKind_of_symbols hall hequals hpoint]
        exact .operator (List.cons_ne_nil _ _) hall (by simpa using hash) hequals hpoint
  | stray h =>
      obtain ⟨hcontrol, hblank⟩ := isStray_iff.1 h
      exact .undefined hcontrol hblank

/-- The first token of a text could not have gone on. -/
theorem stopsAt_first (c : Char) (rest : Text) :
    (first c rest).kind.stopsAt (rest.drop (Lexeme.first c rest).more) = true := by
  have h := Lexeme.applies_first c rest
  unfold first
  generalize Lexeme.first c rest = l at h ⊢
  cases h with
  | blank h => simp [Form.kind, Kind.stopsAt, Text.begins_drop_run]
  | comment =>
      have hstop := Text.begins_drop_run (fun d => !isLineEnd d) rest
      simp only [Form.kind, Kind.stopsAt]
      generalize rest.drop _ = r at hstop ⊢
      cases r with
      | nil => rfl
      | cons d r => simpa using hstop
  | word h =>
      have hstop := Text.begins_drop_run isWordTail rest
      simp only [Form.kind, Vocabulary.stopsAt_wordKind]
      generalize rest.drop _ = r at hstop ⊢
      cases r with
      | nil => rfl
      | cons d r => simpa [isWordTail] using hstop
  | integer h hf =>
      simp [Form.kind, Kind.stopsAt, Text.begins_drop_run, Lexeme.fraction_eq_zero_iff.1 hf]
  | float h hf =>
      obtain ⟨u, hu, -, hlen⟩ := Lexeme.exists_of_fraction hf
      have hstop := Text.begins_drop_run isDigit u
      simp only [Form.kind, Kind.stopsAt]
      rw [← List.drop_drop, hlen, hu, List.drop_succ_cons, hstop]
      rfl
  | pointFloat h => simp [Form.kind, Kind.stopsAt, Text.begins_drop_run]
  | delimiter h =>
      rcases Vocabulary.delimiter_cases h with rfl | rfl | rfl | rfl
      · rfl
      · rfl
      · rfl
      · rfl
  | symbols h hash point =>
      have hstop := Text.begins_drop_run isSymbol rest
      have hall := Text.mem_cons_take_run (t := rest) h
      simp only [Form.kind]
      by_cases hequals : c :: rest.take (Text.run isSymbol rest) = ['=']
      · rw [hequals]
        simp [Vocabulary.symbolKind_equals, Kind.stopsAt, hstop]
      by_cases hpoint : c :: rest.take (Text.run isSymbol rest) = ['.']
      · -- A lone point has an empty run behind it, so what `point` says of the
        -- text behind the first character it says of the text behind the token.
        obtain ⟨hc, hnil⟩ := List.cons.inj hpoint
        have hrun := Text.length_take_run isSymbol rest
        rw [hnil, List.length_nil] at hrun
        rw [hpoint]
        rw [← hrun, List.drop_zero] at hstop ⊢
        simp [Vocabulary.symbolKind_point, Kind.stopsAt, hstop, point hc]
      · rw [Vocabulary.symbolKind_of_symbols hall hequals hpoint]
        simp [Kind.stopsAt, hstop]
  | stray h => rfl

/-! ## Uniqueness -/

theorem first_eq_of_applies {c : Char} {w r : Text} {l : Lexeme}
    (h : Lexeme.Applies c (w ++ r) l) (hmore : l.more = w.length) :
    first c (w ++ r) = ⟨l.form.kind (c :: w), c :: w⟩ := by
  simp [first, h.first_eq, hmore]

/-- A token that looks the way its kind says and could not go on is the first
token of the text that it begins. -/
theorem first_eq_of_wellFormed {t : Token} {c : Char} {w r : Text} (h : t.WellFormed)
    (hstop : t.kind.stopsAt r = true) (hc : t.contents = c :: w) :
    first c (w ++ r) = t := by
  cases h with
  | whitespace ne blank =>
      subst hc
      obtain ⟨hblank, htail⟩ := List.forall_mem_cons.1 blank
      have hrun := Text.run_append htail (by simpa [Kind.stopsAt] using hstop)
      exact first_eq_of_applies (.blank hblank) hrun
  | comment hash lf cr =>
      subst hc
      obtain rfl : c = '#' := by simpa using hash
      have htail : ∀ d ∈ w, !isLineEnd d := fun d hd => by
        have hlf : d ≠ '\n' := fun h => lf (h ▸ List.mem_cons_of_mem _ hd)
        have hcr : d ≠ '\r' := fun h => cr (h ▸ List.mem_cons_of_mem _ hd)
        simp [isLineEnd, hlf, hcr]
      have hr : r.begins (fun d => !isLineEnd d) = false := by
        cases r with
        | nil => rfl
        | cons d r => simpa [Kind.stopsAt] using hstop
      have hrun := Text.run_append htail hr
      exact first_eq_of_applies .comment hrun
  | @identifier d v letter tail other =>
      obtain ⟨rfl, rfl⟩ := List.cons.inj hc
      have htail : ∀ e ∈ v, isWordTail e := fun e he => by simp [isWordTail, tail e he]
      have hrun := Text.run_append htail (Text.begins_wordTail hstop)
      rw [first_eq_of_applies (.word letter) hrun, Form.kind,
        Vocabulary.wordKind_of_not_mem other]
  | keyword key =>
      subst hc
      obtain ⟨d, v, heq, hletter, hletters⟩ := Vocabulary.letters_of_mem key
      obtain ⟨rfl, rfl⟩ := List.cons.inj heq
      rw [← Vocabulary.wordKind_of_mem key, Vocabulary.stopsAt_wordKind] at hstop
      have htail : ∀ e ∈ w, isWordTail e := fun e he => by simp [isWordTail, hletters e he]
      have hrun := Text.run_append htail (Text.begins_wordTail hstop)
      rw [first_eq_of_applies (.word hletter) hrun, Form.kind, Vocabulary.wordKind_of_mem key]
  | integer ne digit =>
      subst hc
      obtain ⟨hdigit, htail⟩ := List.forall_mem_cons.1 digit
      simp only [Kind.stopsAt, Bool.and_eq_true, Bool.not_eq_true'] at hstop
      have hrun := Text.run_append htail hstop.1
      have hf : Lexeme.fraction ((w ++ r).drop (Text.run isDigit (w ++ r))) = 0 := by
        rw [hrun, List.drop_left, Lexeme.fraction_eq_zero_iff]
        exact hstop.2
      exact first_eq_of_applies (.integer hdigit hf) hrun
  | @float v f whole ne fraction =>
      have hrun := Text.run_append fraction (by simpa [Kind.stopsAt] using hstop)
      have hdigit : (f ++ r).begins isDigit = true := by
        obtain ⟨d, f, rfl⟩ := List.exists_cons_of_ne_nil ne
        exact fraction d (by simp)
      cases v with
      | nil =>
          obtain ⟨rfl, rfl⟩ := List.cons.inj hc
          exact first_eq_of_applies (.pointFloat hdigit) hrun
      | cons d v =>
          simp only [List.cons_append, List.cons.injEq] at hc
          obtain ⟨rfl, rfl⟩ := hc
          obtain ⟨hd, hv⟩ := List.forall_mem_cons.1 whole
          have hwhole : Text.run isDigit (v ++ '.' :: (f ++ r)) = v.length :=
            Text.run_append hv (isSymbol_iff.1 isSymbol_point).2.1
          have hf := Lexeme.fraction_point (f ++ r) hdigit
          rw [hrun] at hf
          have happ : Lexeme.Applies d (v ++ '.' :: (f ++ r)) _ :=
            .float hd (by rw [hwhole, List.drop_left, hf]; omega)
          rw [hwhole, List.drop_left, hf] at happ
          exact first_eq_of_applies (w := v ++ '.' :: f) (r := r) (by simpa using happ) (by simp)
  | semicolon | comma | leftParen | rightParen =>
      obtain ⟨rfl, rfl⟩ := List.cons.inj hc
      exact first_eq_of_applies (w := []) (.delimiter rfl) rfl
  | eq =>
      obtain ⟨rfl, rfl⟩ := List.cons.inj hc
      have hrun := Text.run_eq_zero_iff.2 (by simpa [Kind.stopsAt] using hstop)
      exact first_eq_of_applies (w := [])
        (.symbols isSymbol_equals (by decide) (fun h => absurd h (by decide))) hrun
  | dot =>
      obtain ⟨rfl, rfl⟩ := List.cons.inj hc
      simp only [Kind.stopsAt, Bool.and_eq_true, Bool.not_eq_true'] at hstop
      have hrun := Text.run_eq_zero_iff.2 hstop.1
      exact first_eq_of_applies (w := [])
        (.symbols isSymbol_point (by decide) (fun _ => hstop.2)) hrun
  | operator ne symbol hash equals point =>
      subst hc
      obtain ⟨hsymbol, htail⟩ := List.forall_mem_cons.1 symbol
      have hrun := Text.run_append htail (by simpa [Kind.stopsAt] using hstop)
      have hpoint : c = '.' → Text.begins isDigit (w ++ r) = false := by
        rintro rfl
        -- The run has more than its point, and what comes next is in it.
        cases w with
        | nil => exact absurd rfl point
        | cons d w => exact (isSymbol_iff.1 (htail d (by simp))).2.1
      rw [first_eq_of_applies (.symbols hsymbol (by simpa using hash) hpoint) hrun, Form.kind,
        Vocabulary.symbolKind_of_symbols symbol equals point]
  | undefined control blank =>
      obtain ⟨rfl, rfl⟩ := List.cons.inj hc
      exact first_eq_of_applies (w := []) (.stray (isStray_iff.2 ⟨control, blank⟩)) rfl

theorem WellFormed.ne_nil {t : Token} (h : t.WellFormed) : t.contents ≠ [] := by
  cases h with
  | whitespace ne _ => exact ne
  | comment hash _ _ =>
      rintro rfl
      exact absurd hash (by simp)
  | keyword key =>
      obtain ⟨c, w, rfl, -, -⟩ := Vocabulary.letters_of_mem key
      exact List.cons_ne_nil c w
  | integer ne _ => exact ne
  | float _ _ _ => simp
  | operator ne _ _ _ _ => exact ne
  | identifier | semicolon | comma | leftParen | rightParen | eq | dot | undefined =>
      exact List.cons_ne_nil _ _

theorem WellFormed.kind_ne {t : Token} (h : t.WellFormed) : t.kind ≠ .endOfFile := by
  cases h with
  | keyword key =>
      rcases Vocabulary.keyword_cases key with ⟨-, rfl⟩ | ⟨-, rfl⟩ | ⟨-, rfl⟩
      · exact Kind.noConfusion
      · exact Kind.noConfusion
      · exact Kind.noConfusion
  | _ => exact Kind.noConfusion

/-! ## Looks by kind

The kind of a well-formed token leaves one way for it to look. -/

theorem WellFormed.blanks {t : Token} (h : t.WellFormed) (hk : t.kind = .whitespace) :
    ∀ c ∈ t.contents, isBlank c := by
  cases h with
  | whitespace _ blank => exact blank
  | keyword key => exact absurd hk (Vocabulary.kind_ne_of_mem key rfl)
  | _ => exact Kind.noConfusion hk

theorem WellFormed.comment_line {t : Token} (h : t.WellFormed) (hk : t.kind = .comment) :
    t.contents.head? = some '#' ∧ ∀ d ∈ t.contents, isLineEnd d = false := by
  cases h with
  | comment hash lf cr =>
      refine ⟨hash, fun d hd => ?_⟩
      have hlf : d ≠ '\n' := fun h => lf (h ▸ hd)
      have hcr : d ≠ '\r' := fun h => cr (h ▸ hd)
      simp [isLineEnd, hlf, hcr]
  | keyword key => exact absurd hk (Vocabulary.kind_ne_of_mem key rfl)
  | _ => exact Kind.noConfusion hk

theorem WellFormed.digits {t : Token} (h : t.WellFormed) (hk : t.kind = .integer) :
    t.contents ≠ [] ∧ ∀ c ∈ t.contents, isDigit c := by
  cases h with
  | integer ne digit => exact ⟨ne, digit⟩
  | keyword key => exact absurd hk (Vocabulary.kind_ne_of_mem key rfl)
  | _ => exact Kind.noConfusion hk

theorem WellFormed.decimal {t : Token} (h : t.WellFormed) (hk : t.kind = .float64) :
    ∃ w f, t.contents = w ++ '.' :: f ∧ (∀ c ∈ w, isDigit c) ∧ f ≠ [] ∧ ∀ c ∈ f, isDigit c := by
  cases h with
  | @float w f whole ne fraction => exact ⟨w, f, rfl, whole, ne, fraction⟩
  | keyword key => exact absurd hk (Vocabulary.kind_ne_of_mem key rfl)
  | _ => exact Kind.noConfusion hk

theorem WellFormed.symbols {t : Token} (h : t.WellFormed) (hk : t.kind = .operator) :
    (∀ c ∈ t.contents, isSymbol c) ∧ t.contents.head? ≠ some '#' := by
  cases h with
  | operator _ symbol hash _ _ => exact ⟨symbol, hash⟩
  | keyword key => exact absurd hk (Vocabulary.kind_ne_of_mem key rfl)
  | _ => exact Kind.noConfusion hk

theorem WellFormed.stray {t : Token} (h : t.WellFormed) (hk : t.kind = .undefined) :
    ∃ c, t.contents = [c] ∧ isStray c := by
  cases h with
  | @undefined c control blank => exact ⟨c, rfl, isStray_iff.2 ⟨control, blank⟩⟩
  | keyword key => exact absurd hk (Vocabulary.kind_ne_of_mem key rfl)
  | _ => exact Kind.noConfusion hk

/-! ## Cuts -/

@[simp] theorem maximal_nil : Maximal [] := by
  intro before t after h
  simp at h

theorem maximal_cons {t : Token} {ts : List Token} :
    Maximal (t :: ts) ↔ t.kind.stopsAt (text ts) = true ∧ Maximal ts := by
  constructor
  · intro h
    exact ⟨h [] t ts rfl, fun before u after hts => h (t :: before) u after (by rw [hts]; rfl)⟩
  · rintro ⟨ht, hts⟩ before u after h
    cases before with
    | nil =>
        obtain ⟨rfl, rfl⟩ := List.cons.inj h
        exact ht
    | cons v before =>
        obtain ⟨-, rfl⟩ := List.cons.inj h
        exact hts before u after rfl

end Token

theorem wellFormed_of_mem_scan {s : Text} {t : Token} (h : t ∈ scan s) : t.WellFormed := by
  match s with
  | [] => exact absurd h (by simp)
  | c :: rest =>
      rw [scan_cons] at h
      rcases List.mem_cons.1 h with rfl | h
      · exact Token.wellFormed_first c rest
      · exact wellFormed_of_mem_scan h
termination_by s.length
decreasing_by simp only [List.length_drop, List.length_cons]; omega

theorem maximal_scan (s : Text) : Token.Maximal (scan s) := by
  match s with
  | [] => exact Token.maximal_nil
  | c :: rest =>
      rw [scan_cons, Token.maximal_cons, text_scan]
      exact ⟨Token.stopsAt_first c rest, maximal_scan _⟩
termination_by s.length
decreasing_by simp only [List.length_drop, List.length_cons]; omega

/-- A cut into well-formed tokens that could not go on is the scan of the text
that it cuts. The induction peels off the first token on both sides. -/
theorem scan_text {ts : List Token} (hwf : ∀ t ∈ ts, t.WellFormed)
    (hmax : Token.Maximal ts) : scan (Token.text ts) = ts := by
  induction ts with
  | nil => rfl
  | cons t ts ih =>
      obtain ⟨ht, hts⟩ := List.forall_mem_cons.1 hwf
      obtain ⟨hstop, hmax⟩ := Token.maximal_cons.1 hmax
      obtain ⟨c, w, hc⟩ := List.exists_cons_of_ne_nil ht.ne_nil
      have hfirst := Token.first_eq_of_wellFormed ht hstop hc
      have hdrop := Token.drop_length_contents_first c (w ++ Token.text ts)
      rw [hfirst, hc, ← List.cons_append, List.drop_left] at hdrop
      rw [Token.text_cons, hc, List.cons_append, scan_cons, hfirst, ← hdrop, ih hts hmax]

/-- What a scan is: the one cut of the text into tokens that look the way their
kinds say and could not have gone on. -/
theorem scan_eq_iff {s : Text} {ts : List Token} :
    scan s = ts ↔
      Token.text ts = s ∧ (∀ t ∈ ts, t.WellFormed) ∧ Token.Maximal ts := by
  constructor
  · rintro rfl
    exact ⟨text_scan s, fun t ht => wellFormed_of_mem_scan ht, maximal_scan s⟩
  · rintro ⟨rfl, hwf, hmax⟩
    exact scan_text hwf hmax

end LosslessScanner
