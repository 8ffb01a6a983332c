import LosslessScanner.Proofs.Seam

/-!
# Blanks between tokens

Whitespace is the one kind of token that says nothing, and how a text is laid
out is a matter of whitespace alone. So this file looks at the tokens that are
left when it is taken out, the solid ones, each with its span.

Blanks in front of a text move its solid tokens and do nothing else, whether or
not the text goes on with blanks of its own. Behind a text blanks are not always
harmless: a comment would take them in. But a line end stops a comment, and it
is a blank, so what stands behind a line end is scanned for itself
(`solidAt_append_blanks`). A run of whitespace may well go across that place,
which is why scans as such cannot be put together there.
-/

namespace LosslessScanner

def Token.isSolid (t : Token) : Bool := t.kind ≠ .whitespace

/-- The solid tokens of a text that starts at a byte offset. -/
def solidAt (start : Nat) (t : Text) : List LocatedToken :=
  (Token.locate start (scan t)).filter (·.token.isSolid)

/-! ## Blanks as tokens -/

/-- What a token covers is that one token also when it stands alone. -/
theorem scan_contents {t : Token} (h : t.WellFormed) : scan t.contents = [t] := by
  have hwf : ∀ u ∈ [t], u.WellFormed := by
    intro u hu
    rwa [List.mem_singleton.1 hu]
  have hmax : Token.Maximal [t] :=
    Token.maximal_cons.2 ⟨Kind.stopsAt_nil t.kind, Token.maximal_nil⟩
  have hscan := scan_text hwf hmax
  rwa [Token.text_cons, Token.text_nil, List.append_nil] at hscan

theorem scan_blanks {e : Text} (ne : e ≠ []) (he : ∀ c ∈ e, isBlank c) :
    scan e = [⟨.whitespace, e⟩] :=
  scan_contents (.whitespace ne he)

/-- Every token but whitespace stops at a blank, a comment only at the end of its line. -/
theorem Kind.stopsAt_blank {k : Kind} {r : Text} (hk : k ≠ .whitespace)
    (hr : r.begins isBlank = true) (hline : k = .comment → r.begins isLineEnd = true) :
    k.stopsAt r = true := by
  cases r with
  | nil => rw [stopsAt_nil]
  | cons c r =>
      rw [Text.begins_cons] at hr
      have hletter := not_letter_of_blank hr
      have hdigit : isDigit c = false :=
        Bool.eq_false_iff.2 fun h => by rw [not_blank_of_digit h] at hr; exact Bool.noConfusion hr
      have hsymbol : isSymbol c = false := by simp [isSymbol, hr]
      have hpoint : c ≠ '.' := by
        rintro rfl
        exact absurd hr (by decide)
      cases k with
      | whitespace => exact absurd rfl hk
      | comment => simp only [stopsAt, hline rfl, Bool.or_true]
      | integer =>
          simp [stopsAt, hdigit, Text.beginsFraction_of_ne hpoint]
      | identifier | defKeyword | varKeyword | classKeyword | float64 | operator | eq | dot =>
          simp [stopsAt, hletter, hdigit, hsymbol]
      | semicolon | comma | leftParen | rightParen | undefined | endOfFile => rfl

/-! ## Solid tokens of texts put together -/

@[simp] theorem solidAt_nil (start : Nat) : solidAt start [] = [] := rfl

theorem solidAt_blanks {start : Nat} {e : Text} (he : ∀ c ∈ e, isBlank c) :
    solidAt start e = [] := by
  by_cases ne : e = []
  · rw [ne, solidAt_nil]
  · rw [solidAt, scan_blanks ne he]
    rfl

theorem solidAt_append {start : Nat} {a b : Text}
    (h : ∀ t ∈ (scan a).getLast?, t.kind.stopsAt b = true) :
    solidAt start (a ++ b) = solidAt start a ++ solidAt (start + a.byteSize) b := by
  rw [solidAt, scan_append h, Token.locate_append, List.filter_append, text_scan]
  rfl

/-- Blanks in front of a text move its solid tokens. -/
theorem solidAt_blanks_append {start : Nat} {e : Text} (he : ∀ c ∈ e, isBlank c) (b : Text) :
    solidAt start (e ++ b) = solidAt (start + e.byteSize) b := by
  have apart {start : Nat} {e r : Text} (he : ∀ c ∈ e, isBlank c)
      (hr : r.begins isBlank = false) :
      solidAt start (e ++ r) = solidAt (start + e.byteSize) r := by
    by_cases ne : e = []
    · rw [ne]
      rfl
    · rw [solidAt_append, solidAt_blanks he, List.nil_append]
      rw [scan_blanks ne he, List.getLast?_singleton]
      intro t ht
      obtain rfl := Option.some.inj ht
      simp only [Kind.stopsAt, hr, Bool.not_false]
  -- The blanks that `b` begins with go to those in front of it.
  have hw : ∀ c ∈ b.take (Text.run isBlank b), isBlank c := fun c hc => Text.mem_take_run hc
  have hr := Text.begins_drop_run isBlank b
  have hb := List.take_append_drop (Text.run isBlank b) b
  have hew : ∀ c ∈ e ++ b.take (Text.run isBlank b), isBlank c := by
    intro c hc
    rcases List.mem_append.1 hc with hc | hc
    · exact he c hc
    · exact hw c hc
  rw [← hb, ← List.append_assoc, apart hew hr, apart hw hr, Text.byteSize_append, Nat.add_assoc]

/-- Behind whitespace anything can follow. The blanks of both sides may become one token, but
what stands in front of them stopped there already. -/
theorem solidAt_append_of_whitespace {start : Nat} {a w : Text} {ts : List Token}
    (h : scan a = ts ++ [⟨.whitespace, w⟩]) (x : Text) :
    solidAt start (a ++ x) =
      solidAt start (Token.text ts) ++ solidAt (start + a.byteSize) x := by
  have hwf : Token.WellFormed ⟨.whitespace, w⟩ := wellFormed_of_mem_scan (s := a) (by simp [h])
  have hblank : ∀ c ∈ w, isBlank c := hwf.blanks rfl
  have ha : a = Token.text ts ++ w := by
    rw [← text_scan a, h, Token.text_append]
    simp
  have hseam : ∀ t ∈ (scan (Token.text ts)).getLast?, t.kind.stopsAt (w ++ x) = true := by
    intro t ht
    rw [scan_text_of_append h] at ht
    have hmax := maximal_scan a
    rw [h] at hmax
    have hstop := hmax.seam ht
    rw [Token.text_cons, Token.text_nil, List.append_nil] at hstop
    refine Kind.stopsAt_append hwf.ne_nil hstop fun _ hpoint => ?_
    exact absurd (hblank '.' (by rw [hpoint]; simp)) (by decide)
  rw [ha, List.append_assoc, solidAt_append hseam, solidAt_blanks_append hblank,
    Text.byteSize_append, Nat.add_assoc]

/-- A line end, with blanks behind it, separates what is in front of it from what follows. -/
theorem solidAt_append_blanks {start : Nat} {e : Text} (he : ∀ c ∈ e, isBlank c)
    (hline : e.begins isLineEnd = true) (a b : Text) :
    solidAt start (a ++ (e ++ b)) =
      solidAt start a ++ solidAt (start + a.byteSize + e.byteSize) b := by
  have ne : e ≠ [] := by
    rintro rfl
    exact absurd hline (by simp)
  rcases List.eq_nil_or_concat' (scan a) with hnil | ⟨ts, t, ht⟩
  · have hseam : ∀ t ∈ (scan a).getLast?, t.kind.stopsAt (e ++ b) = true := by
      intro t ht
      rw [hnil] at ht
      exact absurd ht (by simp)
    rw [solidAt_append hseam, solidAt_blanks_append he]
  by_cases hk : t.kind = .whitespace
  · obtain ⟨kind, w⟩ := t
    subst hk
    have hleft : solidAt start (a ++ []) = _ := solidAt_append_of_whitespace ht []
    rw [List.append_nil, solidAt_nil, List.append_nil] at hleft
    rw [solidAt_append_of_whitespace ht, ← hleft, solidAt_blanks_append he]
  · have hseam : ∀ u ∈ (scan a).getLast?, u.kind.stopsAt (e ++ b) = true := by
      intro u hu
      rw [ht, List.getLast?_concat] at hu
      obtain rfl := Option.some.inj hu
      refine Kind.stopsAt_blank hk ?_ fun _ => by rw [Text.begins_append ne, hline]
      obtain ⟨c, w, rfl⟩ := List.exists_cons_of_ne_nil ne
      exact he c (by simp)
    rw [solidAt_append hseam, solidAt_blanks_append he]

end LosslessScanner
