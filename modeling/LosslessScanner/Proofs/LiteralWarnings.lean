import LosslessScanner.Proofs.Number.Grammar
import LosslessScanner.Proofs.Number.Nearest
import LosslessScanner.Proofs.Spans
import LosslessScanner.Session

/-!
# Which literals a check warns of

The scanner makes tokens of numbers of any length, and only a check asks for
their values. It warns of those that have none. Here the warnings are told from
the values alone: an integer past `2 ^ 31 - 1`, and a number with a fraction
that has reached the point from which on rounding gives infinity.

A literal could fail in other ways, since its contents are read again by a
reader that knows nothing of the scanner. It does not, because the looks of a
well-formed token are inside the numerals that the reader takes.
-/

namespace LosslessScanner

/-- The warning that a token deserves for its value. -/
def LocatedToken.excess? (t : LocatedToken) : Option LexicalError :=
  match t.token.kind with
  | .integer =>
    if 2147483647 < naturalValue t.token.contents then
      some ⟨.invalidInteger t.token.contents, t.span⟩
    else none
  | .float64 =>
    if 2 ^ 1024 - 2 ^ 970 ≤ rationalValue t.token.contents then
      some ⟨.invalidFloat t.token.contents, t.span⟩
    else none
  | _ => none

/-- The warnings that the tokens of a source deserve, in their order. -/
def excesses (s : Text) : List LexicalError := (scanFile s).filterMap LocatedToken.excess?

/-! ## Literals one by one -/

theorem Kind.isLiteral_iff {k : Kind} : k.isLiteral ↔ k = .integer ∨ k = .float64 := by
  cases k <;> simp [isLiteral]

namespace Token

variable {t : Token}

/-- An integer token fails exactly if its value does not fit. -/
theorem WellFormed.int32?_cases (h : t.WellFormed) (hk : t.kind = .integer) :
    (∃ n, t.int32? = .ok n ∧ naturalValue t.contents ≤ 2147483647) ∨
      t.int32? = .error ⟨.invalidInteger t.contents, Span.none⟩ ∧
        2147483647 < naturalValue t.contents := by
  obtain ⟨ne, digit⟩ := h.digits hk
  have hmin : Int32.minValue.toInt = -2147483648 := rfl
  have hmax : Int32.maxValue.toInt = 2147483647 := rfl
  simp only [int32?, hk, integerNumeral?_digits ne digit, hmin, hmax, if_true]
  by_cases hle : naturalValue t.contents ≤ 2147483647
  · refine Or.inl ⟨Int32.ofInt (naturalValue t.contents), if_pos ⟨?_, ?_⟩, hle⟩
    · omega
    · omega
  · refine Or.inr ⟨if_neg fun hfits => hle ?_, by omega⟩
    omega

/-- A token with a fraction fails exactly if its value rounds to infinity. -/
theorem WellFormed.float64?_cases (h : t.WellFormed) (hk : t.kind = .float64) :
    (∃ x, t.float64? = .ok x ∧ ¬ 2 ^ 1024 - 2 ^ 970 ≤ rationalValue t.contents) ∨
      t.float64? = .error ⟨.invalidFloat t.contents, Span.none⟩ ∧
        2 ^ 1024 - 2 ^ 970 ≤ rationalValue t.contents := by
  obtain ⟨w, f, hcontents, whole, ne, fraction⟩ := h.decimal hk
  obtain ⟨d, hd, -, hmagnitude⟩ := Decimal.exists_ofNumeral?_point whole ne fraction
  rw [← hcontents] at hd hmagnitude
  simp only [float64?, hk, hd, Option.bind_some, if_true]
  rw [← hmagnitude, ← Binary64.ofDecimal?_eq_none_iff]
  cases Binary64.ofDecimal? d with
  | none => exact Or.inr ⟨rfl, rfl⟩
  | some x => exact Or.inl ⟨x, rfl, nofun⟩

end Token

namespace LocatedToken

variable {t : LocatedToken}

theorem literal?_of_integer (hk : t.token.kind = .integer) :
    t.literal? = (t.token.int32?.map .int32).mapError (·.moveTo t.span) := by
  rw [literal?, Token.literal?, hk]

theorem literal?_of_float64 (hk : t.token.kind = .float64) :
    t.literal? = (t.token.float64?.map .float64).mapError (·.moveTo t.span) := by
  rw [literal?, Token.literal?, hk]

/-- A literal in its place has a value, or the error it deserves. -/
theorem literal?_cases (h : t.token.WellFormed) (hk : t.token.kind.isLiteral) :
    (∃ v, t.literal? = .ok v ∧ t.excess? = none) ∨
      ∃ e, t.literal? = .error e ∧ t.excess? = some e := by
  rcases Kind.isLiteral_iff.1 hk with hkind | hkind
  · simp only [literal?_of_integer hkind, excess?, hkind]
    rcases h.int32?_cases hkind with ⟨n, hok, hle⟩ | ⟨herror, hlt⟩
    · rw [hok, if_neg (by omega)]
      exact Or.inl ⟨.int32 n, rfl, rfl⟩
    · rw [herror, if_pos hlt]
      exact Or.inr ⟨_, rfl, rfl⟩
  · simp only [literal?_of_float64 hkind, excess?, hkind]
    rcases h.float64?_cases hkind with ⟨x, hok, hlt⟩ | ⟨herror, hle⟩
    · rw [hok, if_neg hlt]
      exact Or.inl ⟨.float64 x, rfl, rfl⟩
    · rw [herror, if_pos hle]
      exact Or.inr ⟨_, rfl, rfl⟩

/-- What is no literal deserves no warning. -/
theorem excess?_eq_none (hk : t.token.kind.isLiteral = false) : t.excess? = none := by
  unfold excess?
  split
  · next hkind =>
      rw [hkind] at hk
      exact Bool.noConfusion hk
  · next hkind =>
      rw [hkind] at hk
      exact Bool.noConfusion hk
  · rfl

/-- A warning is about a literal, says what kind of number it is and points at it. -/
theorem of_excess? {e : LexicalError} (h : t.excess? = some e) :
    e.span = t.span ∧
      (t.token.kind = .integer ∧ e.fault = .invalidInteger t.token.contents ∨
        t.token.kind = .float64 ∧ e.fault = .invalidFloat t.token.contents) := by
  unfold excess? at h
  split at h
  · next hkind =>
      split at h
      · obtain rfl := Option.some.inj h
        exact ⟨rfl, Or.inl ⟨hkind, rfl⟩⟩
      · exact absurd h (by simp)
  · next hkind =>
      split at h
      · obtain rfl := Option.some.inj h
        exact ⟨rfl, Or.inr ⟨hkind, rfl⟩⟩
      · exact absurd h (by simp)
  · exact absurd h (by simp)

end LocatedToken

/-! ## All of them -/

theorem warningOf?_eq {t : LocatedToken} (h : t.token.WellFormed) :
    Session.warningOf? t = t.excess? := by
  by_cases hk : t.token.kind.isLiteral
  · rw [Session.warningOf?, if_pos hk]
    rcases LocatedToken.literal?_cases h hk with ⟨v, hok, hnone⟩ | ⟨e, herror, hsome⟩
    · rw [hok, hnone]
    · rw [herror, hsome]
  · rw [Session.warningOf?, if_neg hk, LocatedToken.excess?_eq_none (eq_false_of_ne_true hk)]

/-- The mark at the end is no literal, so that it makes no difference to the warnings. -/
theorem filterMap_warningOf?_locate (s : Text) :
    (Token.locate 0 (scan s)).filterMap Session.warningOf? = excesses s := by
  rw [excesses, scanFile_eq_append, List.filterMap_append]
  have hmark : [LocatedToken.mk Token.endOfFile ⟨s.byteSize, s.byteSize⟩].filterMap
      LocatedToken.excess? = [] := rfl
  rw [hmark, List.append_nil]
  refine List.filterMap_congr fun t ht => ?_
  exact warningOf?_eq (wellFormed_of_mem_scan (Token.token_mem_of_mem_locate ht))

/-- The warnings after a check are those that the values of the literals call for: one for each
literal out of range, in the order of the source. Each says what kind of number its literal
should be and cuts the literal out of the source, and every other literal has a value. -/
theorem warnings_check_eq (s : Session) :
    s.check.report.warnings = (excesses s.source).map Session.finding ∧
      (∀ w ∈ s.check.report.warnings, ∃ t ∈ scanFile s.source, ∃ e,
        w = Session.finding e ∧ t.excess? = some e ∧ e.span = t.span ∧
          s.source.utf8Encode.extract e.span.start e.span.stop = t.token.contents.utf8Encode ∧
          (t.token.kind = .integer ∧ e.fault = .invalidInteger t.token.contents ∨
            t.token.kind = .float64 ∧ e.fault = .invalidFloat t.token.contents)) ∧
      ∀ t ∈ scanFile s.source, t.token.kind.isLiteral →
        ((∃ v, t.literal? = .ok v) ↔ t.excess? = none) := by
  have hwarnings : s.check.report.warnings = (excesses s.source).map Session.finding :=
    congrArg (List.map Session.finding) (filterMap_warningOf?_locate s.source)
  refine ⟨hwarnings, fun w hw => ?_, fun t ht hk => ?_⟩
  · rw [hwarnings] at hw
    obtain ⟨e, he, rfl⟩ := List.mem_map.1 hw
    obtain ⟨t, ht, hexcess⟩ := List.mem_filterMap.1 he
    obtain ⟨hspan, hfault⟩ := LocatedToken.of_excess? hexcess
    have hslice := (tiles_scanFile s.source).slice t ht
    rw [← hspan] at hslice
    exact ⟨t, ht, e, rfl, hexcess, hspan, hslice, hfault⟩
  · rw [scanFile_eq_append] at ht
    rcases List.mem_append.1 ht with hmem | hmark
    · have hwf := wellFormed_of_mem_scan (Token.token_mem_of_mem_locate hmem)
      rcases LocatedToken.literal?_cases hwf hk with ⟨v, hok, hnone⟩ | ⟨e, herror, hsome⟩
      · exact iff_of_true ⟨v, hok⟩ hnone
      · rw [herror, hsome]
        exact iff_of_false (fun ⟨_, h⟩ => nomatch h) nofun
    · obtain rfl := List.mem_singleton.1 hmark
      exact Bool.noConfusion hk

end LosslessScanner
