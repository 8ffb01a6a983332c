import LosslessScanner.Proofs.CommentRegion
import LosslessScanner.Session

/-!
# What a check finds wrong

The errors of a check are about characters, but they are found among tokens.
Here they are listed without tokens: a control that is no blank is an error
wherever it stands, unless a comment hides it. The two lists are the same, in
the same order.

A scan cuts the positions of a source into those of its tokens, so the lists
are compared token by token. A token with an undefined character is one
position and one error. In any other token no position is an error: either it
is a comment, and all of it lies in a comment region (`commentRegion_iff`), or
its kind has no room for a stray control.
-/

namespace LosslessScanner

/-- The error at a position of a source, if there is one: a control that is no blank and is
in no comment region. -/
def strayAt? (s : Text) : Char × Nat → Option LexicalError
  | (c, p) =>
    let start := Text.byteSize (s.take p)
    if isStray c ∧ ¬ CommentRegion s p then
      some ⟨.undefinedToken [c], ⟨start, start + c.utf8Size⟩⟩
    else none

/-- The errors at all positions of a source, in order. -/
def strays (s : Text) : List LexicalError := s.zipIdx.filterMap (strayAt? s)

/-! ## Tokens without stray characters -/

theorem not_stray_of_blank {c : Char} (h : isBlank c) : isStray c = false := by
  simp [isStray, h]

/-- A class without controls has no stray characters. -/
theorem not_stray_of_class {p : Char → Bool} (apart : ∀ {c}, isControl c → p c = false) {c : Char}
    (h : p c) : isStray c = false := by
  refine Bool.eq_false_iff.2 fun hstray => ?_
  rw [apart (isStray_iff.1 hstray).1] at h
  exact Bool.noConfusion h

theorem not_stray_of_symbol {c : Char} (h : isSymbol c) : isStray c = false := by
  simp [isStray, (isSymbol_iff.1 h).2.2.2.1]

namespace Token

theorem WellFormed.not_stray {t : Token} (h : t.WellFormed) (hcomment : t.kind ≠ .comment)
    (hundefined : t.kind ≠ .undefined) : ∀ c ∈ t.contents, isStray c = false := by
  intro c hc
  cases h with
  | whitespace _ blank => exact not_stray_of_blank (blank c hc)
  | comment _ _ _ => exact absurd rfl hcomment
  | identifier letter tail _ =>
      rcases List.mem_cons.1 hc with rfl | hc
      · exact not_stray_of_class not_letter_of_control letter
      · rcases tail c hc with hletter | hdigit
        · exact not_stray_of_class not_letter_of_control hletter
        · exact not_stray_of_class not_digit_of_control hdigit
  | keyword key =>
      obtain ⟨d, w, rfl, letter, letters⟩ := Vocabulary.letters_of_mem key
      rcases List.mem_cons.1 hc with rfl | hc
      · exact not_stray_of_class not_letter_of_control letter
      · exact not_stray_of_class not_letter_of_control (letters c hc)
  | integer _ digit => exact not_stray_of_class not_digit_of_control (digit c hc)
  | float whole _ fraction =>
      rcases List.mem_append.1 hc with hc | hc
      · exact not_stray_of_class not_digit_of_control (whole c hc)
      rcases List.mem_cons.1 hc with rfl | hc
      · exact not_stray_of_symbol isSymbol_point
      · exact not_stray_of_class not_digit_of_control (fraction c hc)
  | semicolon | comma | leftParen | rightParen =>
      obtain rfl := List.mem_singleton.1 hc
      exact not_stray_of_class not_delimiter_of_control rfl
  | eq =>
      obtain rfl := List.mem_singleton.1 hc
      exact not_stray_of_symbol isSymbol_equals
  | dot =>
      obtain rfl := List.mem_singleton.1 hc
      exact not_stray_of_symbol isSymbol_point
  | operator _ symbol _ _ _ => exact not_stray_of_symbol (symbol c hc)
  | undefined _ _ => exact absurd rfl hundefined

end Token

/-! ## Errors, token by token -/

/-- The positions of a token give the error that the token is, if it is one. -/
theorem filterMap_strayAt?_contents {s : Text} {before behind : List Token} {t : Token}
    (h : scan s = before ++ t :: behind) :
    (t.contents.zipIdx (Token.text before).length).filterMap (strayAt? s) =
      (Session.errorOf? ⟨t, ⟨(Token.text before).byteSize,
        (Token.text before).byteSize + t.size⟩⟩).toList := by
  have ht : t.WellFormed := wellFormed_of_mem_scan (s := s) (by rw [h]; simp)
  by_cases hk : t.kind = .undefined
  · obtain ⟨c, hc, hstray⟩ := ht.stray hk
    have hregion : ¬ CommentRegion s (Token.text before).length := by
      have hiff := commentRegion_iff h (x := []) (c := c) (y := []) hc
      rw [List.append_nil] at hiff
      rw [hiff, hk]
      exact Kind.noConfusion
    have htake : s.take (Token.text before).length = Token.text before := by
      rw [← text_scan s, h, Token.text_append, List.take_left]
    simp [strayAt?, hc, hk, hstray, hregion, htake, Session.errorOf?, Token.size]
  · have hnone : Session.errorOf? ⟨t, ⟨(Token.text before).byteSize,
        (Token.text before).byteSize + t.size⟩⟩ = none := by
      unfold Session.errorOf?
      split
      · next hundefined => exact absurd hundefined hk
      · rfl
    rw [hnone, Option.toList_none, List.filterMap_eq_nil_iff]
    rintro ⟨c, p⟩ hp
    obtain ⟨x, y, hc, rfl⟩ := Token.exists_of_mem_zipIdx hp
    refine if_neg fun hstray => ?_
    by_cases hcomment : t.kind = .comment
    · have hregion := (commentRegion_iff h hc).2 hcomment
      rw [List.length_append] at hregion
      exact hstray.2 hregion
    · have hno := ht.not_stray hcomment hk c (by rw [hc]; simp)
      rw [hno] at hstray
      exact Bool.noConfusion hstray.1

theorem filterMap_errorOf?_locate {s : Text} {before ts : List Token}
    (h : scan s = before ++ ts) :
    (Token.locate (Token.text before).byteSize ts).filterMap Session.errorOf? =
      ((Token.text ts).zipIdx (Token.text before).length).filterMap (strayAt? s) :=
  Token.filterMap_locate_eq filterMap_strayAt?_contents h

/-- A check reports the stray controls that no comment hides, each once and in their order,
and answers how many there are. -/
theorem errors_check_eq (s : Session) :
    s.check.report.errors = (strays s.source).map Session.finding ∧
      s.step .check = (.count (strays s.source).length, s.check) := by
  have herrors : s.check.report.errors = (strays s.source).map Session.finding := by
    have h := @filterMap_errorOf?_locate s.source [] (scan s.source) rfl
    rw [text_scan] at h
    exact congrArg (List.map Session.finding) h
  refine ⟨herrors, ?_⟩
  rw [Session.step, herrors, List.length_map]

end LosslessScanner
