import LosslessScanner.Proofs.Spans

/-!
# Texts scanned apart and together

Two texts can be scanned one after the other if no token goes across the place
where they meet. Of the tokens in front only the last one touches that place,
and it is enough to ask that it could not have gone on into what follows.

It is enough although an integer looks at two characters, so that the second
of them may lie behind the seam: the digits of `3.` have seen the point and
not the `5` that is put behind it. But then the point is the last token in
front, and a point that a digit follows could have gone on by itself. This is
the one place where the last token answers for the one before it
(`maximal_append`); everywhere else the character behind a token decides, and
that character stays what it was.
-/

namespace LosslessScanner

namespace Text

theorem begins_append {p : Char → Bool} {r s : Text} (h : r ≠ []) :
    begins p (r ++ s) = begins p r := by
  cases r with
  | nil => exact absurd rfl h
  | cons c r => rfl

theorem beginsFraction_of_ne {c : Char} (h : c ≠ '.') (t : Text) :
    beginsFraction (c :: t) = false := by
  rw [beginsFraction]
  intro u hu
  exact h (List.cons.inj hu).1

theorem beginsFraction_of_append_eq_false {r s : Text}
    (h : beginsFraction (r ++ s) = false) : beginsFraction r = false := by
  unfold beginsFraction at h ⊢
  split
  · next t =>
      cases t with
      | nil => rfl
      | cons c t => exact h
  · rfl

/-- A fraction that comes about by putting texts together has its point at the
end of the first. -/
theorem beginsFraction_append_eq_false {r s : Text} (hr : r ≠ [])
    (h : beginsFraction r = false) (hpoint : r = ['.'] → begins isDigit s = false) :
    beginsFraction (r ++ s) = false := by
  cases r with
  | nil => exact absurd rfl hr
  | cons c r =>
      by_cases hc : c = '.'
      · subst hc
        cases r with
        | nil => exact hpoint rfl
        | cons d r => exact h
      · exact beginsFraction_of_ne hc (r ++ s)

end Text

/-! ## What a token sees of the text behind it -/

namespace Kind

@[simp] theorem stopsAt_nil (k : Kind) : k.stopsAt [] = true := by
  cases k <;> rfl

/-- All but an integer look at one character only. -/
theorem stopsAt_append_eq {k : Kind} {r : Text} (s : Text) (hk : k ≠ .integer) (hr : r ≠ []) :
    k.stopsAt (r ++ s) = k.stopsAt r := by
  cases k with
  | integer => exact absurd rfl hk
  | comment =>
      have hrs : r ++ s ≠ [] := fun h => hr (List.append_eq_nil_iff.1 h).1
      simp only [stopsAt, Text.begins_append hr, List.isEmpty_eq_false_iff.2 hr,
        List.isEmpty_eq_false_iff.2 hrs]
  | semicolon | comma | leftParen | rightParen | undefined | endOfFile => rfl
  | _ => simp only [stopsAt, Text.begins_append hr]

/-- What stops in front of a text stops in front of a shorter one. -/
theorem stopsAt_of_append {k : Kind} {r s : Text} (h : k.stopsAt (r ++ s) = true) :
    k.stopsAt r = true := by
  by_cases hr : r = []
  · rw [hr, stopsAt_nil]
  by_cases hk : k = .integer
  · subst hk
    simp only [stopsAt, Text.begins_append hr, Bool.and_eq_true, Bool.not_eq_true'] at h ⊢
    exact ⟨h.1, Text.beginsFraction_of_append_eq_false h.2⟩
  · rwa [stopsAt_append_eq s hk hr] at h

/-- What stops in front of a text stops in front of a longer one, unless an
integer gets a digit behind the point that it stopped at. -/
theorem stopsAt_append {k : Kind} {r s : Text} (hr : r ≠ []) (h : k.stopsAt r = true)
    (hpoint : k = .integer → r = ['.'] → s.begins isDigit = false) :
    k.stopsAt (r ++ s) = true := by
  by_cases hk : k = .integer
  · subst hk
    simp only [stopsAt, Text.begins_append hr, Bool.and_eq_true, Bool.not_eq_true'] at h ⊢
    exact ⟨h.1, Text.beginsFraction_append_eq_false hr h.2 (hpoint rfl)⟩
  · rwa [stopsAt_append_eq s hk hr]

end Kind

/-! ## Cuts put together -/

namespace Token

/-- The only token that is a point is the dot. -/
theorem WellFormed.eq_dot {t : Token} (h : t.WellFormed) (hpoint : t.contents = ['.']) :
    t = ⟨.dot, ['.']⟩ := by
  have hsymbol := isSymbol_iff.1 isSymbol_point
  cases h with
  | whitespace ne blank =>
      obtain rfl := hpoint
      exact absurd (blank '.' (by simp)) (by simp [hsymbol.2.2.1])
  | comment hash lf cr =>
      obtain rfl := hpoint
      exact absurd hash (by decide)
  | identifier letter tail other =>
      obtain ⟨rfl, -⟩ := List.cons.inj hpoint
      exact absurd letter (by simp [hsymbol.1])
  | keyword key =>
      obtain rfl := hpoint
      rcases Vocabulary.keyword_cases key with ⟨h, -⟩ | ⟨h, -⟩ | ⟨h, -⟩
      · exact absurd h (by decide)
      · exact absurd h (by decide)
      · exact absurd h (by decide)
  | integer ne digit =>
      obtain rfl := hpoint
      exact absurd (digit '.' (by simp)) (by decide)
  | @float w f whole ne fraction =>
      have hlength := congrArg List.length hpoint
      have := List.length_pos_of_ne_nil ne
      simp only [List.length_append, List.length_cons, List.length_nil] at hlength
      omega
  | semicolon | comma | leftParen | rightParen | eq => exact absurd hpoint (by decide)
  | dot => rfl
  | operator ne symbol hash equals point => exact absurd hpoint point
  | undefined control blank =>
      obtain ⟨rfl, -⟩ := List.cons.inj hpoint
      exact absurd control (by decide)

theorem text_ne_nil {t : Token} {ts : List Token} (h : t.WellFormed) : text (t :: ts) ≠ [] := by
  intro hnil
  rw [text_cons] at hnil
  exact h.ne_nil (List.append_eq_nil_iff.1 hnil).1

/-- Tokens whose text is a point are one dot. -/
theorem eq_dot_of_text {ts : List Token} (hwf : ∀ t ∈ ts, t.WellFormed)
    (h : text ts = ['.']) : ts = [⟨.dot, ['.']⟩] := by
  match ts with
  | [] => exact absurd h (by simp)
  | [t] =>
      have ht : t.contents = ['.'] := by simpa using h
      rw [(hwf t (by simp)).eq_dot ht]
  | t :: u :: ts =>
      have ht := List.length_pos_of_ne_nil (hwf t (by simp)).ne_nil
      have hu := List.length_pos_of_ne_nil (hwf u (by simp)).ne_nil
      have hlength := congrArg List.length h
      simp only [text_cons, List.length_append, List.length_cons, List.length_nil] at hlength
      omega

theorem Maximal.left {ts us : List Token} (h : Maximal (ts ++ us)) : Maximal ts := by
  intro before t after hts
  have hstop := h before t (after ++ us) (by rw [hts, List.append_assoc]; rfl)
  rw [text_append] at hstop
  exact Kind.stopsAt_of_append hstop

/-- The last token in front of a seam stops there. -/
theorem Maximal.seam {ts us : List Token} (h : Maximal (ts ++ us)) {t : Token}
    (ht : t ∈ ts.getLast?) : t.kind.stopsAt (text us) = true := by
  obtain ⟨before, rfl⟩ := List.getLast?_eq_some_iff.1 ht
  exact h before t us (by rw [List.append_assoc]; rfl)

/-- Cuts can be put together if the last token of the first stops at the seam. -/
theorem maximal_append {ts us : List Token} (hwf : ∀ t ∈ ts, t.WellFormed) (hts : Maximal ts)
    (hus : Maximal us) (hseam : ∀ t ∈ ts.getLast?, t.kind.stopsAt (text us) = true) :
    Maximal (ts ++ us) := by
  induction ts with
  | nil => exact hus
  | cons t ts ih =>
      obtain ⟨hstop, hts⟩ := maximal_cons.1 hts
      obtain ⟨-, hwf⟩ := List.forall_mem_cons.1 hwf
      rw [List.cons_append, maximal_cons]
      cases ts with
      | nil => exact ⟨hseam t rfl, hus⟩
      | cons u ts =>
          rw [List.getLast?_cons_cons] at hseam
          refine ⟨?_, ih hwf hts hseam⟩
          rw [text_append]
          refine Kind.stopsAt_append (text_ne_nil (hwf u (by simp))) hstop fun _ hpoint => ?_
          -- Only a dot is left in front of the seam, and it stops there.
          rw [eq_dot_of_text hwf hpoint] at hseam
          have hdot : Kind.dot.stopsAt (text us) = true := hseam _ rfl
          simp only [Kind.stopsAt, Bool.and_eq_true, Bool.not_eq_true'] at hdot
          exact hdot.2

end Token

/-! ## Texts put together -/

theorem scan_append {a b : Text} (h : ∀ t ∈ (scan a).getLast?, t.kind.stopsAt b = true) :
    scan (a ++ b) = scan a ++ scan b := by
  have hwf : ∀ t ∈ scan a ++ scan b, t.WellFormed := by
    intro t ht
    rcases List.mem_append.1 ht with ht | ht
    · exact wellFormed_of_mem_scan ht
    · exact wellFormed_of_mem_scan ht
  have hmax : Token.Maximal (scan a ++ scan b) := by
    refine Token.maximal_append (fun t ht => wellFormed_of_mem_scan ht) (maximal_scan a)
      (maximal_scan b) fun t ht => ?_
    rw [text_scan]
    exact h t ht
  have hscan := scan_text hwf hmax
  rwa [Token.text_append, text_scan, text_scan] at hscan

/-- The tokens in front of a place in a scan are the scan of the text in front of it. -/
theorem scan_text_of_append {s : Text} {ts us : List Token} (h : scan s = ts ++ us) :
    scan (Token.text ts) = ts := by
  have hmax := maximal_scan s
  rw [h] at hmax
  refine scan_text (fun t ht => wellFormed_of_mem_scan (s := s) ?_) hmax.left
  rw [h]
  exact List.mem_append_left us ht

theorem scan_ne_nil {a : Text} (h : a ≠ []) : scan a ≠ [] := by
  intro hnil
  have htext := text_scan a
  rw [hnil] at htext
  exact h htext.symm

/-- A text that is not empty has a last token, and what is put behind the text can be
scanned apart exactly if that token could not have gone on into it. -/
theorem scan_append_eq_iff {a : Text} (ha : a ≠ []) (b : Text) :
    ∃ t, (scan a).getLast? = some t ∧
      (scan (a ++ b) = scan a ++ scan b ↔ t.kind.stopsAt b = true) := by
  have ht := List.getLast?_eq_some_getLast (scan_ne_nil ha)
  refine ⟨_, ht, fun h => ?_, fun h => scan_append fun u hu => ?_⟩
  · have hmax := maximal_scan (a ++ b)
    rw [h] at hmax
    have hseam := hmax.seam ht
    rwa [text_scan] at hseam
  · obtain rfl := Option.some.inj (ht.symm.trans hu)
    exact h

/-- Behind `3.` a digit cannot be scanned apart: the integer would take the point with it. -/
theorem scan_append_eq_iff_point :
    "3.".toList ≠ [] ∧ ∃ t, (scan "3.".toList).getLast? = some t ∧
      (scan ("3.".toList ++ ['5']) = scan "3.".toList ++ scan ['5'] ↔
        t.kind.stopsAt ['5'] = true) :=
  ⟨by decide, scan_append_eq_iff (by decide) ['5']⟩

end LosslessScanner
