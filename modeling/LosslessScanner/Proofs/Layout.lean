import LosslessScanner.Proofs.Blanks

/-!
# Layout

A program does not change when it is laid out anew. Its solid tokens can be
written down with other blanks around them, and the text that comes of it has
the same solid tokens, if three things are kept: nothing but blanks is put in,
where the source has blanks there are still some, and the line of a comment is
ended.

What has to be seen is that no token goes on into what now follows it. Where
blanks follow they stop every token, and the end of a line stops a comment.
Where nothing follows in between, the token and the next one touched in the
source already, and there it stopped. The one that looks further is an integer
in front of a point: it asks for the character behind the point, and that may
be another one now. But the point is then a token as well, and a point that
stops has no digit behind it. So the tokens are settled from the end of the
text on, each by the one behind it (`Spaces.stopsAt`).
-/

namespace LosslessScanner

/-- The solid tokens of a text, wherever they stand. -/
def solid (s : Text) : List Token := (scan s).filter Token.isSolid

theorem map_token_solidAt (start : Nat) (s : Text) :
    (solidAt start s).map (·.token) = solid s := by
  have hmap := List.filter_map (f := LocatedToken.token) (p := Token.isSolid)
    (l := Token.locate start (scan s))
  rw [Token.map_token_locate] at hmap
  exact hmap.symm

theorem solid_append {a b : Text} (h : ∀ t ∈ (scan a).getLast?, t.kind.stopsAt b = true) :
    solid (a ++ b) = solid a ++ solid b := by
  rw [solid, scan_append h, List.filter_append]
  rfl

theorem solid_blanks_append {e : Text} (he : ∀ c ∈ e, isBlank c) (b : Text) :
    solid (e ++ b) = solid b := by
  rw [← map_token_solidAt 0, solidAt_blanks_append he, map_token_solidAt]

/-- A solid token does not begin with a blank. -/
theorem Token.WellFormed.begins_blank {t : Token} (h : t.WellFormed) (hk : t.kind ≠ .whitespace) :
    t.contents.begins isBlank = false := by
  obtain ⟨c, w, hc⟩ := List.exists_cons_of_ne_nil h.ne_nil
  have hfirst : Token.first c w = t := by
    have hscan := scan_contents h
    rw [hc, scan_cons] at hscan
    exact (List.cons.inj hscan).1
  rw [hc, Text.begins_cons, ← Bool.not_eq_true]
  intro hblank
  rw [← hfirst, first, (Lexeme.Applies.blank hblank).first_eq] at hk
  exact hk rfl

/-! ## Tokens that touch -/

/-- Solid tokens in their places, as a source may have them: where two of them touch, the first
stops in front of the second. -/
structure SolidCut (ts : List LocatedToken) : Prop where
  solid : ∀ t ∈ ts, t.token.kind ≠ .whitespace
  wellFormed : ∀ t ∈ ts, t.token.WellFormed
  touching : ts.Pairwise fun t u =>
    t.span.stop = u.span.start → t.token.kind.stopsAt u.token.contents = true

theorem Token.pairwise_stopsAt {start : Nat} {ts : List Token} (hmax : Maximal ts) :
    (locate start ts).Pairwise fun t u =>
      t.span.stop = u.span.start → t.token.kind.stopsAt u.token.contents = true := by
  induction ts generalizing start with
  | nil => exact .nil
  | cons t ts ih =>
      obtain ⟨hstop, hmax⟩ := maximal_cons.1 hmax
      rw [locate, List.pairwise_cons]
      refine ⟨?_, ih hmax⟩
      intro u hu htouch
      obtain ⟨before, behind, rfl, hstart, -⟩ := exists_of_mem_locate hu
      have hsize : (text before).byteSize = 0 := by
        rw [hstart] at htouch
        show (text before).byteSize = 0
        simp only at htouch
        omega
      rw [text_append, Text.byteSize_eq_zero_iff.1 hsize, List.nil_append, text_cons] at hstop
      exact Kind.stopsAt_of_append hstop

theorem solidCut_locate (start : Nat) {ts : List Token} (hwf : ∀ t ∈ ts, t.WellFormed)
    (hmax : Token.Maximal ts) :
    SolidCut ((Token.locate start ts).filter (·.token.isSolid)) where
  solid := by
    intro t ht
    have hsolid := (List.mem_filter.1 ht).2
    rwa [Token.isSolid, decide_eq_true_eq] at hsolid
  wellFormed := by
    intro t ht
    exact hwf t.token (Token.token_mem_of_mem_locate (List.mem_filter.1 ht).1)
  touching := (Token.pairwise_stopsAt hmax).filter _

theorem solidCut_solidAt (start : Nat) (s : Text) : SolidCut (solidAt start s) :=
  solidCut_locate start (fun _ ht => wellFormed_of_mem_scan ht) (maximal_scan s)

namespace SolidCut

variable {t : LocatedToken} {ts : List LocatedToken}

theorem tail (h : SolidCut (t :: ts)) : SolidCut ts where
  solid := fun u hu => h.solid u (List.mem_cons_of_mem t hu)
  wellFormed := fun u hu => h.wellFormed u (List.mem_cons_of_mem t hu)
  touching := (List.pairwise_cons.1 h.touching).2

end SolidCut

/-! ## Blanks that may be put between them -/

/-- The texts `ws` may stand behind the solid tokens `ts` of a source, one behind each. They are
blank, they keep apart what blanks have kept apart in the source, and what follows a comment begins
with the end of its line, unless it is the last token and nothing follows at all. -/
inductive Spaces : List LocatedToken → List Text → Prop where
  | nil : Spaces [] []
  | cons {t : LocatedToken} {ts : List LocatedToken} {w : Text} {ws : List Text}
      (blank : ∀ c ∈ w, isBlank c)
      (apart : ∀ u ∈ ts.head?, t.span.stop ≠ u.span.start → w ≠ [])
      (line : t.token.kind = .comment → w = [] ∧ ts = [] ∨ w.begins isLineEnd = true)
      (more : Spaces ts ws) : Spaces (t :: ts) (w :: ws)

/-- The tokens written down, each with the text that goes behind it. -/
def layOut : List LocatedToken → List Text → Text
  | t :: ts, w :: ws => t.token.contents ++ (w ++ layOut ts ws)
  | _, _ => []

namespace Spaces

theorem stopsAt_of_ne_nil {t : LocatedToken} {ts : List LocatedToken} {w : Text}
    {ws : List Text} (h : Spaces (t :: ts) (w :: ws)) (hk : t.token.kind ≠ .whitespace)
    (ne : w ≠ []) (r : Text) : t.token.kind.stopsAt (w ++ r) = true := by
  obtain - | ⟨blank, -, line, -⟩ := h
  refine Kind.stopsAt_blank hk ?_ ?_
  · rw [Text.begins_append ne]
    obtain ⟨c, w, rfl⟩ := List.exists_cons_of_ne_nil ne
    exact blank c List.mem_cons_self
  · intro hcomment
    rw [Text.begins_append ne]
    exact (line hcomment).resolve_left fun h => ne h.1

/-- Laid out anew, a token stops where it ends. -/
theorem stopsAt {t : LocatedToken} {ts : List LocatedToken} {w : Text} {ws : List Text}
    (h : Spaces (t :: ts) (w :: ws)) (hcut : SolidCut (t :: ts)) :
    t.token.kind.stopsAt (w ++ layOut ts ws) = true := by
  induction ts generalizing t w ws with
  | nil =>
      by_cases ne : w = []
      · obtain - | ⟨-, -, -, more⟩ := h
        cases more
        rw [ne]
        exact Kind.stopsAt_nil t.token.kind
      · exact h.stopsAt_of_ne_nil (hcut.solid t (by simp)) ne _
  | cons u ts ih =>
      by_cases ne : w = []
      · -- Nothing is put in between, so the source had nothing there either.
        obtain - | ⟨-, apart, -, more⟩ := h
        have htouch : t.span.stop = u.span.start := by
          by_contra hgap
          exact apart u rfl hgap ne
        have hstop := (List.pairwise_cons.1 hcut.touching).1 u (by simp) htouch
        have hu := hcut.wellFormed u (by simp)
        obtain _ | ⟨v, ws⟩ := ws
        · nomatch more
        rw [ne, List.nil_append, layOut]
        refine Kind.stopsAt_append hu.ne_nil hstop ?_
        -- What an integer sees behind a point is what the point stops at.
        intro _ hpoint
        have hdot := ih more hcut.tail
        rw [hu.eq_dot hpoint] at hdot
        simp only [Kind.stopsAt, Bool.and_eq_true, Bool.not_eq_true'] at hdot
        exact hdot.2
      · exact h.stopsAt_of_ne_nil (hcut.solid t (by simp)) ne _

/-- Laid out anew, the tokens are found again. -/
theorem solid_layOut {ts : List LocatedToken} {ws : List Text} (h : Spaces ts ws)
    (hcut : SolidCut ts) : solid (layOut ts ws) = ts.map (·.token) := by
  induction h with
  | nil => rfl
  | @cons t ts w ws blank apart line more ih =>
      have hstop := (cons blank apart line more).stopsAt hcut
      have hwf := hcut.wellFormed t (by simp)
      have hsolid := hcut.solid t (by simp)
      have hseam : ∀ u ∈ (scan t.token.contents).getLast?,
          u.kind.stopsAt (w ++ layOut ts ws) = true := by
        intro u hu
        rw [scan_contents hwf, List.getLast?_singleton] at hu
        obtain rfl := Option.some.inj hu
        exact hstop
      have halone : solid t.token.contents = [t.token] := by
        rw [solid, scan_contents hwf, List.filter_singleton]
        simp [Token.isSolid, hsolid]
      rw [layOut, solid_append hseam, halone, solid_blanks_append blank, ih hcut.tail]
      rfl

/-! The blanks that a source has itself are among them. -/

theorem begins_layOut {ts : List LocatedToken} {ws : List Text} (h : Spaces ts ws)
    (hcut : SolidCut ts) (ne : ts ≠ []) :
    layOut ts ws ≠ [] ∧ (layOut ts ws).begins isBlank = false := by
  obtain - | ⟨-, -, -, -⟩ := h
  · exact absurd rfl ne
  · next t ts w ws =>
      have ht := hcut.wellFormed t (by simp)
      refine ⟨List.append_ne_nil_of_left_ne_nil ht.ne_nil _, ?_⟩
      rw [layOut, Text.begins_append ht.ne_nil]
      exact ht.begins_blank (hcut.solid t (by simp))

/-- Behind a comment that stops, a solid token comes only after the end of the line. -/
theorem line_of_stopsAt {ts : List LocatedToken} {ws : List Text} (h : Spaces ts ws)
    (hcut : SolidCut ts) {front : Text}
    (hstop : Kind.comment.stopsAt (front ++ layOut ts ws) = true) :
    front = [] ∧ ts = [] ∨ front.begins isLineEnd = true := by
  rw [Kind.stopsAt, Bool.or_eq_true, List.isEmpty_iff] at hstop
  by_cases hfront : front = []
  · refine Or.inl ⟨hfront, ?_⟩
    by_contra hts
    obtain ⟨ne, hblank⟩ := h.begins_layOut hcut hts
    rw [hfront, List.nil_append] at hstop
    obtain ⟨c, r, hc⟩ := List.exists_cons_of_ne_nil ne
    rw [hc, Text.begins_cons] at hblank
    rw [hc, Text.begins_cons] at hstop
    rw [blank_of_lineEnd (hstop.resolve_left (List.cons_ne_nil c r))] at hblank
    exact Bool.noConfusion hblank
  · rw [Text.begins_append hfront] at hstop
    exact Or.inr (hstop.resolve_left (List.append_ne_nil_of_left_ne_nil hfront _))

/-- The blanks of a text are a layout of its solid tokens. -/
theorem exists_of_maximal (start : Nat) {ts : List Token} (hwf : ∀ t ∈ ts, t.WellFormed)
    (hmax : Token.Maximal ts) :
    ∃ front ws, (∀ c ∈ front, isBlank c) ∧
      Spaces ((Token.locate start ts).filter (·.token.isSolid)) ws ∧
      Token.text ts = front ++ layOut ((Token.locate start ts).filter (·.token.isSolid)) ws ∧
      ∀ u ∈ ((Token.locate start ts).filter (·.token.isSolid)).head?,
        u.span.start = start + front.byteSize := by
  induction ts generalizing start with
  | nil => exact ⟨[], [], by simp, .nil, rfl, by simp [Token.locate]⟩
  | cons t ts ih =>
      obtain ⟨hstop, hmax⟩ := Token.maximal_cons.1 hmax
      obtain ⟨ht, hwf⟩ := List.forall_mem_cons.1 hwf
      obtain ⟨front, ws, blank, hspaces, htext, hstart⟩ := ih (start + t.size) hwf hmax
      rw [Token.locate]
      by_cases hk : t.kind = .whitespace
      · have hsolid : t.isSolid = false := by simp [Token.isSolid, hk]
        rw [List.filter_cons_of_neg (by simp [hsolid])]
        refine ⟨t.contents ++ front, ws, ?_, hspaces, ?_, ?_⟩
        · intro c hc
          rcases List.mem_append.1 hc with hc | hc
          · exact ht.blanks hk c hc
          · exact blank c hc
        · rw [Token.text_cons, htext, List.append_assoc]
        · intro u hu
          rw [hstart u hu, Text.byteSize_append, Token.size, Nat.add_assoc]
      · have hsolid : t.isSolid = true := by simp [Token.isSolid, hk]
        rw [List.filter_cons_of_pos (by simp [hsolid])]
        refine ⟨[], front :: ws, by simp, .cons blank ?_ ?_ hspaces, ?_, ?_⟩
        · intro u hu hgap hnil
          rw [hstart u hu, hnil] at hgap
          exact hgap rfl
        · intro hcomment
          have hcut := solidCut_locate (start + t.size) hwf hmax
          rw [show t.kind = .comment from hcomment, htext] at hstop
          exact hspaces.line_of_stopsAt hcut hstop
        · rw [Token.text_cons, htext]
          rfl
        · intro u hu
          obtain rfl := Option.some.inj hu
          rfl

end Spaces

/-! ## Layouts of a source -/

/-- A way to lay out a source: blanks in front of its solid tokens, and a text behind each. -/
structure Layout (s : Text) where
  front : Text
  behind : List Text
  blank : ∀ c ∈ front, isBlank c
  spaces : Spaces (solidAt 0 s) behind

def Layout.text {s : Text} (l : Layout s) : Text := l.front ++ layOut (solidAt 0 s) l.behind

/-- A source is laid out in one of its ways. -/
theorem Layout.exists_text_eq (s : Text) : ∃ l : Layout s, l.text = s := by
  obtain ⟨front, ws, blank, hspaces, htext, -⟩ :=
    Spaces.exists_of_maximal 0 (fun t ht => wellFormed_of_mem_scan ht) (maximal_scan s)
  refine ⟨⟨front, ws, blank, hspaces⟩, ?_⟩
  rw [text_scan] at htext
  exact htext.symm

/-- However a source is laid out, its solid tokens are the same. -/
theorem Layout.solid_text {s : Text} (l : Layout s) : solid l.text = solid s := by
  rw [text, solid_blanks_append l.blank, l.spaces.solid_layOut (solidCut_solidAt 0 s),
    map_token_solidAt]

/-- A point may move away from the digits in front of it, which it did not belong to, and a comment
may have its line ended in another way. -/
theorem Layout.solid_text_comment :
    let s : Text := "3.x # a\ny".toList
    ∃ l : Layout s, l.text = "\t3 .x  # a\r\ny\n".toList ∧ solid l.text = solid s := by
  intro s
  have hsolid : solidAt 0 s =
      [⟨⟨.integer, ['3']⟩, ⟨0, 1⟩⟩, ⟨⟨.dot, ['.']⟩, ⟨1, 2⟩⟩, ⟨⟨.identifier, ['x']⟩, ⟨2, 3⟩⟩,
        ⟨⟨.comment, ['#', ' ', 'a']⟩, ⟨4, 7⟩⟩, ⟨⟨.identifier, ['y']⟩, ⟨8, 9⟩⟩] := by
    decide +kernel
  have hblank (w : Text) (h : w.all isBlank = true) : ∀ c ∈ w, isBlank c := List.all_eq_true.1 h
  have hspaces : Spaces (solidAt 0 s) [[' '], [], [' ', ' '], ['\r', '\n'], ['\n']] := by
    rw [hsolid]
    refine .cons (hblank _ rfl) (by decide) (by decide) ?_
    refine .cons (hblank _ rfl) (by decide) (by decide) ?_
    refine .cons (hblank _ rfl) (by decide) (by decide) ?_
    refine .cons (hblank _ rfl) (by decide) (by decide) ?_
    exact .cons (hblank _ rfl) (by decide) (by decide) .nil
  let l : Layout s := ⟨['\t'], _, hblank _ rfl, hspaces⟩
  have htext : l.text = "\t3 .x  # a\r\ny\n".toList := by
    rw [Layout.text, hsolid]
    rfl
  exact ⟨l, htext, l.solid_text⟩

end LosslessScanner
